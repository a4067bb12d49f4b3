import BytecodeParity.Failure
import BytecodeParity.Json.Record
/-!
# Address books

What is published with a deployment: the chain, where to reach it, and the addresses of its
contracts. A contract that is listed without an address, or with the placeholder for one, counts
as not deployed.
-/

namespace BytecodeParity

/-- What is known about a deployment. -/
structure AddressBook where
  chainId : Option Nat
  chainName : Option String
  rpc : Option String
  blockExplorer : Option String
  contracts : OrderedMap String String
  poolInitCodeHash : Option String
  deriving DecidableEq, Repr

namespace AddressBook

/-- The address book in which nothing is written. -/
def empty : AddressBook := ⟨none, none, none, none, [], none⟩

/-- Stands in place of the address of a contract that is not deployed yet. -/
def placeholder : String := "TBA"

/-- The address of a contract that is deployed, without blanks around it. -/
def deployedAddress? (book : AddressBook) (name : String) : Option String := do
  let address := String.ofList (Text.trim (← OrderedMap.find? name book.contracts).toList)
  if address = "" ∨ address = placeholder then none else some address

/-- How an address book is written. Only the contracts have to be there. -/
def layout : Json.Reader.Layout AddressBook where
  title := "struct DeploymentAddresses"
  initial := empty
  fields :=
    let depth := Json.Reader.depthLimit - 1
    let text := Json.Reader.optional (Json.Reader.text "a string")
    [ ⟨"chainId", false, false, fun b => do
        return { b with chainId := ← Json.Reader.optional Json.Reader.nat64 }⟩,
      ⟨"chainName", false, false, fun b => do return { b with chainName := ← text }⟩,
      ⟨"rpc", false, false, fun b => do return { b with rpc := ← text }⟩,
      ⟨"blockExplorer", false, false, fun b => do return { b with blockExplorer := ← text }⟩,
      ⟨"contracts", true, true, fun b => do
        let contracts ←
          Json.Reader.map depth Json.Reader.string (Json.Reader.text "a string")
        return { b with contracts }⟩,
      ⟨"poolInitCodeHash", false, false, fun b => do
        return { b with poolInitCodeHash := ← text }⟩ ]

/-- The address book that a text holds. -/
def parse (text : String) : Except Failure AddressBook := (layout.parse text).mapError .json

/-- The address book in a file. -/
def ofFile (fs : Files.Tree) (path : String) : Except Failure AddressBook := do
  if !fs.pathExists path then throw (.addressFileMissing path)
  parse (← (fs.readText path).mapError .file)

/-- The address book of a network in a directory. -/
def ofDirectory (fs : Files.Tree) (directory : String) (network : Network) :
    Except Failure AddressBook :=
  ofFile fs (Path.join directory network.addressFile)

end AddressBook

end BytecodeParity

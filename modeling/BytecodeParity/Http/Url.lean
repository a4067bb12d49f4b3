import BytecodeParity.Http.Address
/-!
# Web addresses

Where a request goes: scheme, host, port, path and query of an address of the web. A fragment is
left out, as it does not name what is asked for, and so are credentials.
-/

namespace BytecodeParity.Http

/-- Where a request goes. -/
structure Url where
  /-- Whether the scheme is that of encrypted exchange. -/
  secure : Bool
  host : Host
  /-- The port, unless it is the usual one of the scheme. -/
  port : Option Nat
  path : String
  query : Option String
  deriving DecidableEq, Repr

namespace Url

/-- Why a text is no address to which a request can go. -/
inductive Fault where
  /-- The text is no address. -/
  | address (fault : Address.Fault)
  /-- The address has a scheme that is not of the web. -/
  | foreignScheme (text : String)
  /-- The address is of the web, but not in a form that can be sent. -/
  | notSendable (text : String)
  deriving DecidableEq, Repr

/-- The wording of a fault. -/
def Fault.message : Fault → String
  | .address fault => "builder error: " ++ fault.message
  | .foreignScheme text => "builder error for url (" ++ text ++ "): URL scheme is not allowed"
  | .notSendable text => "builder error for url (" ++ text ++ "): Parsed Url is not a valid Uri"

/-- The name of the scheme. -/
def scheme (url : Url) : String := if url.secure then "https" else "http"

/-- What is asked of the host: path and query. -/
def target (url : Url) : String :=
  url.path ++
    match url.query with
    | some q => "?" ++ q
    | none => ""

/-- The server that is asked. -/
def origin (url : Url) : String :=
  url.scheme ++ "://" ++ String.ofList (url.host.text ++ Authority.portText url.port)

/-- The address as a text. -/
def text (url : Url) : String := url.origin ++ url.target

/-! ## Reading -/

/-- The number of bytes up to which an address can be sent. -/
def greatestSize : Nat := 65534

/-- Whether a host can be sent. Names may hold some characters that no request may. -/
def isSendable (host : Host) : Bool :=
  !host.text.any fun c => c == '"' || c.toNat == 0x60 || c == '\x7b' || c == '\x7d'

/-- Reads an address. Only an address of the web is an answer; another one that can be read is named
by the fault. -/
def parse (address : String) : Except Fault Url := do
  let address ← (Address.read address).mapError .address
  let address := { address with authority := address.authority.map Authority.withoutCredentials }
  let isSecure := address.scheme = "https".toList
  match address.authority with
  | none => .error (.foreignScheme address.text)
  | some authority =>
    if !isSecure && address.scheme ≠ "http".toList then .error (.foreignScheme address.text)
    else if !isSendable authority.host || greatestSize < address.text.utf8ByteSize then
      .error (.notSendable address.text)
    else
      .ok ⟨isSecure, authority.host, authority.port, String.ofList address.path,
        address.query.map String.ofList⟩

end Url

end BytecodeParity.Http

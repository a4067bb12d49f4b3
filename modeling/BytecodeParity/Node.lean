import BytecodeParity.Failure
/-!
# Asking a node

A node of a chain is asked for the code of an account or for the chain it belongs to. What it
answers is read whatever the status of the reply.
-/

namespace BytecodeParity.Node

/-- What a node answers. -/
structure Answer where
  version : String
  id : Nat
  result : Option Json
  error : Option Json

/-- How an answer is written. -/
def layout : Json.Reader.Layout Answer where
  title := "struct Web3Response"
  initial := ⟨"", 0, none, none⟩
  fields :=
    let value := Json.Reader.optional (Json.Reader.value (Json.Reader.depthLimit - 1))
    [ ⟨"jsonrpc", true, true, fun a => do
        return { a with version := ← Json.Reader.text "a string" }⟩,
      ⟨"id", true, true, fun a => do return { a with id := ← Json.Reader.nat64 }⟩,
      ⟨"result", false, true, fun a => do return { a with result := ← value }⟩,
      ⟨"error", false, true, fun a => do return { a with error := ← value }⟩ ]

/-- The body of a request. -/
def question (method : String) (arguments : List Json) : Json :=
  .object
    [ ("id", .number (.integer 1)), ("jsonrpc", .string "2.0"), ("method", .string method),
      ("params", .array arguments) ]

/-- The result of an answer. An error goes before a result. -/
def Answer.value (a : Answer) : Except Failure Json :=
  match a.error, a.result with
  | some e, _ => .error (.nodeError e)
  | none, some r => .ok r
  | none, none => .error .nodeGaveNothing

/-- Asks the node at an endpoint. -/
def ask (servers : Http.Servers) (endpoint : String) (question : Json) :
    Http.Exchange (Except Failure Json) :=
  let exchange := Http.send servers .post endpoint (some question)
  { requests := exchange.requests
    result := do
      let reply ← exchange.result.mapError .communication
      let answer ← (layout.parse reply.content).mapError fun e => .communication (.body e)
      answer.value }

/-! ## Code -/

/-- The question for the code of an account. -/
def codeQuestion (address : String) : Json :=
  question "eth_getCode" [.string address, .string "latest"]

/-- The code that a result stands for, in raw form behind a mark. -/
def readCode : Json → Except Failure Text
  | .string code => .ok ('0' :: 'x' :: Hex.raw code.toList)
  | v => .error (.json (.invalidType v.describe "a string"))

/-- The code of an account. -/
def code (servers : Http.Servers) (endpoint address : String) :
    Http.Exchange (Except Failure Text) :=
  let exchange := ask servers endpoint (codeQuestion address)
  ⟨exchange.result.bind readCode, exchange.requests⟩

/-! ## Chain -/

/-- The question for the chain. -/
def chainIdQuestion : Json := question "eth_chainId" []

/-- A text without any marks at its front. -/
def dropMarks : Text → Text
  | '0' :: 'x' :: t => dropMarks t
  | t => t

/-- The chain that a result stands for. -/
def readChainId : Json → Except Failure Nat
  | .string id => (Numeral.read 16 UInt64.size (dropMarks id.toList)).mapError .numeral
  | _ => .error .chainIdNotText

/-- The chain that a node belongs to. -/
def chainId (servers : Http.Servers) (endpoint : String) : Http.Exchange (Except Failure Nat) :=
  let exchange := ask servers endpoint chainIdQuestion
  ⟨exchange.result.bind readChainId, exchange.requests⟩

end BytecodeParity.Node

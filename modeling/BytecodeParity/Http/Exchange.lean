import BytecodeParity.Http.Url
import BytecodeParity.Json.Record
/-!
# Requests and replies

The world's servers are a function from requests to replies; no reply means that no connection was
made. A request is only made if its address can be read.
-/

namespace BytecodeParity.Http

/-- What a server is asked. -/
inductive Method where
  | get
  | post
  deriving DecidableEq, Repr

/-- The name of a method. -/
def Method.name : Method → String
  | get => "GET"
  | post => "POST"

/-- A request. -/
structure Request where
  method : Method
  url : Url
  body : Option Json

/-- A reply. -/
structure Reply where
  status : Nat
  body : String
  deriving DecidableEq, Repr

/-- Whether the status of a reply is one of success. -/
def Reply.isSuccess (r : Reply) : Bool := 200 ≤ r.status && r.status < 300

/-- The text that comes with a reply. Two statuses say that there is none, whatever was sent. -/
def Reply.content (r : Reply) : String := if r.status = 204 ∨ r.status = 304 then "" else r.body

/-- The servers of the world. -/
abbrev Servers := Request → Option Reply

/-- Why there is no answer that can be used. -/
inductive Fault where
  | address (fault : Url.Fault)
  | noConnection
  /-- The body of the reply is not the JSON expected. -/
  | body (fault : Json.Fault)
  deriving DecidableEq, Repr

/-- The wording of a fault. -/
def Fault.message : Fault → String
  | .address fault => fault.message
  | .noConnection => "error sending request"
  | .body fault => "error decoding response body: " ++ fault.message

/-- What came of an exchange, and the requests that were made for it. -/
structure Exchange (α : Type) where
  result : α
  requests : List Request

/-- Sends a request to an address. -/
def send (servers : Servers) (method : Method) (address : String) (body : Option Json) :
    Exchange (Except Fault Reply) :=
  match Url.parse address with
  | .error e => ⟨.error (.address e), []⟩
  | .ok url =>
    let request := ⟨method, url, body⟩
    match servers request with
    | none => ⟨.error .noConnection, [request]⟩
    | some reply => ⟨.ok reply, [request]⟩

end BytecodeParity.Http

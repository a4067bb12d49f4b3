import BytecodeParity.Http.Host
import BytecodeParity.Http.Route
/-!
# Addresses

Addresses of resources of any kind, read the way browsers read them and kept in a normal form: a
scheme; often an authority, which is a host with a port and credentials for it; a path; perhaps a
query; perhaps a fragment. Blanks around an address and breaks within it do not count.

The schemes of the web, and few others, are special. Their addresses always have a host and a path
with steps, however many slashes follow the scheme, and a backslash is as good as a slash. Files
are special too, but their host may be missing.
-/

namespace BytecodeParity.Http

/-! ## Parts -/

/-- Credentials, in percent form. -/
structure Credentials where
  username : Text
  password : Text
  deriving DecidableEq, Repr

/-- What an address asks. -/
structure Authority where
  credentials : Credentials
  /-- The host. It is an empty name where there is none. -/
  host : Host
  /-- The port, unless it is the usual one of the scheme. -/
  port : Option Nat
  deriving DecidableEq, Repr

/-- An address. -/
structure Address where
  scheme : Text
  authority : Option Authority
  path : Text
  query : Option Text
  fragment : Option Text
  deriving DecidableEq, Repr

/-- Credentials in front of a host. -/
def Credentials.text (c : Credentials) : Text :=
  if c.username.isEmpty && c.password.isEmpty then []
  else c.username ++ (if c.password.isEmpty then [] else ':' :: c.password) ++ ['@']

/-- Whether credentials can be sent: the username is a text and one of the two is there. -/
def Credentials.canBeSent (c : Credentials) : Bool :=
  let isText (t : Text) : Bool := (Percent.text? (Percent.decode t)).isSome
  isText c.username && (!c.username.isEmpty || isText c.password)

namespace Authority

/-- A port behind a host. -/
def portText (port : Option Nat) : Text :=
  match port with
  | some p => ':' :: Nat.toDigits 10 p
  | none => []

/-- The authority as it stands in an address. -/
def text (a : Authority) : Text :=
  ['/', '/'] ++ a.credentials.text ++ a.host.text ++ portText a.port

/-- The authority without credentials that can be sent in another way. -/
def withoutCredentials (a : Authority) : Authority :=
  if a.credentials.canBeSent then { a with credentials := ⟨[], []⟩ } else a

end Authority

namespace Address

/-- A part with its mark in front, if there is one. -/
def marked (mark : Char) (part : Option Text) : Text :=
  match part with
  | some t => mark :: t
  | none => []

/-- The address as a text. A path that begins with two slashes does not become an authority. -/
def text (a : Address) : String :=
  String.ofList (a.scheme ++ [':'] ++
    (match a.authority with
      | some authority => authority.text
      | none => if ['/', '/'].isPrefixOf a.path then ['/', '.'] else []) ++
    a.path ++ marked '?' a.query ++ marked '#' a.fragment)

/-! ## Schemes -/

/-- Why a text is no address. -/
inductive Fault where
  /-- There is no scheme. -/
  | relative
  | host (fault : Host.Fault)
  | port
  deriving DecidableEq, Repr

/-- The wording of a fault. -/
def Fault.message : Fault → String
  | .relative => "relative URL without a base"
  | .host fault => fault.message
  | .port => "invalid port number"

/-- The kind of a scheme. -/
def kind (scheme : Text) : Route.Kind :=
  let name := String.ofList scheme
  if name = "file" then .file
  else if name = "http" ∨ name = "https" ∨ name = "ws" ∨ name = "wss" ∨ name = "ftp" then .special
  else .other

/-- The usual port of a scheme. -/
def usualPort? (scheme : Text) : Option Nat :=
  let name := String.ofList scheme
  if name = "http" ∨ name = "ws" then some 80
  else if name = "https" ∨ name = "wss" then some 443
  else if name = "ftp" then some 21
  else none

/-- The characters of an address that count. -/
def significant (t : Text) : Text :=
  let isEdge (c : Char) : Bool := c.toNat ≤ 0x20
  (((t.dropWhile isEdge).reverse.dropWhile isEdge).reverse).filter fun c =>
    c != '\t' && c != '\n' && c != '\x0d'

/-- The scheme, in small letters, and what follows it. -/
def readScheme? (t : Text) : Option (Text × Text) :=
  let inScheme (c : Char) : Bool := c.isAlphanum || c == '+' || c == '-' || c == '.'
  match Text.lower (t.takeWhile inScheme), t.dropWhile inScheme with
  | c :: scheme, ':' :: rest => if c.isAlpha then some (c :: scheme, rest) else none
  | _, _ => none

/-! ## Authorities -/

/-- Whether a character ends an authority. -/
def endsAuthority (kind : Route.Kind) (c : Char) : Bool :=
  Route.isSlash kind c || c == '?' || c == '#'

/-- Reads credentials. -/
def readCredentials (t : Text) : Credentials :=
  ⟨Percent.encode Percent.inCredentials (t.takeWhile (· != ':')),
    Percent.encode Percent.inCredentials (t.dropWhile (· != ':')).tail⟩

/-- The host of a text in which a port may follow. Colons between brackets belong to the host. -/
def hostPart (inBrackets : Bool) : Text → Text
  | [] => []
  | c :: t =>
    if c == ':' && !inBrackets then []
    else c :: hostPart (c == '[' || (inBrackets && c != ']')) t

/-- Reads the host of a scheme of some kind. -/
def readHost (kind : Route.Kind) (t : Text) : Except Host.Fault Host :=
  match kind with
  | .other => Host.readOpaque t
  | _ => if t.isEmpty then .error .empty else Host.read t

/-- Reads a port from what follows a host, and what follows the port. -/
def readPort (usual : Option Nat) : Text → Except Fault (Option Nat × Text)
  | ':' :: t => do
    let digits := t.takeWhile Char.isDigit
    let rest := t.dropWhile Char.isDigit
    let port ←
      if digits.isEmpty then .ok none
      else
        match Numeral.read? 10 UInt16.size digits with
        | some p => .ok (if some p = usual then none else some p)
        | none => .error .port
    match rest with
    | [] => .ok (port, [])
    | '\\' :: _ => .ok (port, rest)
    | _ => .error .port
  | rest => .ok (none, rest)

/-- Reads an authority, and what follows it. -/
def readAuthority (scheme t : Text) : Except Fault (Authority × Text) := do
  let kind := kind scheme
  let whole := t.takeWhile fun c => !endsAuthority kind c
  let rest := t.dropWhile fun c => !endsAuthority kind c
  let parts := whole.splitOn '@'
  let place := (parts.getLast?).getD []
  if whole = ['@'] && !rest.isEmpty then .error (.host .empty)
  else
    let credentials := readCredentials (['@'].intercalate parts.dropLast)
    let hostText := hostPart false place
    let behind := place.drop hostText.length
    let host ← (readHost kind hostText).mapError .host
    if host = .name [] && (!behind.isEmpty || !credentials.text.isEmpty) then
      .error (.host .empty)
    else
      let (port, more) ← readPort (usualPort? scheme) behind
      .ok (⟨credentials, host, port⟩, more ++ rest)

/-! ## Behind the authority -/

/-- Cuts a text at the first occurrence of a character. -/
def cut (mark : Char) (t : Text) : Text × Option Text :=
  match t.dropWhile (· != mark) with
  | [] => (t, none)
  | _ :: rest => (t.takeWhile (· != mark), some rest)

/-- The address that has a path, which is read by the function given, a query and a fragment. -/
def finish (scheme : Text) (authority : Option Authority) (readPath : Text → Text) (t : Text) :
    Address :=
  let (t, fragment) := cut '#' t
  let (path, query) := cut '?' t
  let inQuery := if kind scheme = .other then Percent.inQuery else Percent.inSpecialQuery
  ⟨scheme, authority, readPath path, query.map (Percent.encode inQuery),
    fragment.map (Percent.encode Percent.inFragment)⟩

/-- The text without a slash at its front. -/
def dropSlash (kind : Route.Kind) (t : Text) : Text :=
  match t with
  | c :: rest => if Route.isSlash kind c then rest else t
  | [] => []

/-- Reads the path behind an authority. Only where the scheme is not special it may be missing. -/
def readPath (kind : Route.Kind) (t : Text) : Text :=
  if kind = .other && t.isEmpty then []
  else Route.text (Route.steps kind (dropSlash kind t))

/-! ## Files -/

/-- Reads the path of a file. It does not begin with empty steps. -/
def readFilePath (t : Text) : Text :=
  '/' :: (Route.text (Route.steps .file (dropSlash .file t))).dropWhile (· == '/')

/-- The host of a file that is on no other machine. -/
def noHost : Host := .name []

/-- Reads the host of a file. This machine is no other one. -/
def readFileHost (t : Text) : Except Fault Host := do
  if t.isEmpty then .ok noHost
  else
    let host ← (Host.read t).mapError .host
    .ok (if host = .name "localhost".toList then noHost else host)

/-- Whether the path of a file begins with a drive. -/
def beginsWithDrive (t : Text) : Bool :=
  let (path, _) := cut '?' (cut '#' t).1
  ((Route.steps .file (dropSlash .file path)).head?.map Route.isDrive).getD false

/-- Reads the address of a file from what follows the scheme. A drive belongs to this machine. -/
def readFile (t : Text) : Except Fault Address := do
  let scheme := "file".toList
  let address (host : Host) (t : Text) : Address :=
    finish scheme (some ⟨⟨[], []⟩, if beginsWithDrive t then noHost else host, none⟩) readFilePath t
  match t with
  | a :: b :: rest =>
    if Route.isSlash .file a && Route.isSlash .file b then
      let place := rest.takeWhile fun c => !endsAuthority .file c
      if Route.isDrive place then .ok (address noHost rest)
      else .ok (address (← readFileHost place) (rest.drop place.length))
    else .ok (address noHost t)
  | _ => .ok (address noHost t)

/-! ## Addresses -/

/-- Reads an address. -/
def read (address : String) : Except Fault Address := do
  match readScheme? (significant address.toList) with
  | none => .error .relative
  | some (scheme, t) =>
    match kind scheme with
    | .file => readFile t
    | .special =>
      let (authority, rest) ← readAuthority scheme (t.dropWhile (Route.isSlash .special))
      .ok (finish scheme (some authority) (readPath .special) rest)
    | .other =>
      match t with
      | '/' :: '/' :: t =>
        let (authority, rest) ← readAuthority scheme t
        .ok (finish scheme (some authority) (readPath .other) rest)
      | '/' :: _ => .ok (finish scheme none (readPath .other) t)
      | _ => .ok (finish scheme none (Percent.encode Percent.inOpaque) t)

end Address

end BytecodeParity.Http

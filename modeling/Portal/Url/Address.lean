import Portal.Text.Basic
import Portal.Url.Encoding

/-!
# Addresses

How the text of a URL is read before a request is sent: where it goes, the segments of its path and
its query. Only `http` and `https` addresses with a host can be asked. A transport may refuse more of
them, and then sends nothing: hosts that are no names or numbers once they are decoded, and texts of
65534 bytes or more.
-/

namespace Portal

inductive Scheme
  | http
  | https
  deriving DecidableEq

def Scheme.defaultPort : Scheme → Nat
  | .http => 80
  | .https => 443

/-- The segments hold no slash; the empty ones among them count. Without a query there is no
question mark either. -/
structure Address where
  scheme : Scheme
  host : List Char
  port : Nat
  segments : List (List Char)
  query : Option (List Char)
  deriving DecidableEq

namespace Address

/-! ## Cutting the text -/

/-- Without spaces and controls at its ends, and without tabs and line ends inside. -/
def cleaned (s : List Char) : List Char :=
  let isEdge (c : Char) : Bool := c.toNat ≤ 0x20
  (Text.dropEndWhile isEdge (s.dropWhile isEdge)).filter fun c =>
    c != '\t' && c != '\n' && c != '\r'

def isSlash (c : Char) : Bool :=
  c == '/' || c == '\\'

def scheme? (s : List Char) : Option (Scheme × List Char) := do
  let (name, rest) ← Text.splitOnce ':' s
  match String.ofList (Text.lower name) with
  | "http" => some (.http, rest)
  | "https" => some (.https, rest)
  | _ => none

/-- Host and port, which starts after the last colon outside brackets. -/
def hostPort (s : List Char) : List Char × List Char :=
  match s with
  | '[' :: _ =>
    let inside := s.takeWhile (· != ']')
    (inside ++ (s.drop inside.length).take 1, s.drop (inside.length + 1))
  | s => (s.takeWhile (· != ':'), s.dropWhile (· != ':'))

/-- An empty port is the scheme's own. -/
def port? (scheme : Scheme) (s : List Char) : Option Nat :=
  match s with
  | [] => some scheme.defaultPort
  | ':' :: ds =>
    if ds.isEmpty then some scheme.defaultPort
    else if ds.all Text.isDigit ∧ Text.digitsVal ds ≤ 65535 then some (Text.digitsVal ds)
    else none
  | _ => none

/-- What stands before an `@` says who asks, not where. -/
def withoutUser (authority : List Char) : List Char :=
  match Text.splitOnce '@' authority.reverse with
  | some (host, _) => host.reverse
  | none => authority

/-- No character that rules a host out. Brackets hold a number of the longer kind: digits, letters
up to `f`, colons and points. Whether it makes a number is not looked at. -/
def isHost (host : List Char) : Bool :=
  match host with
  | [] => false
  | '[' :: s =>
    s.getLast? == some ']' &&
      s.dropLast.all fun c => (Text.hexVal? c).isSome || c == ':' || c == '.'
  | s =>
    s.all fun c => !(Percent.isControl c ||
      [' ', '#', '/', '<', '>', '?', '@', '[', '\\', ']', '^', '|'].contains c)

/-! ## Segments -/

def isEscapedInPath (c : Char) : Bool :=
  Percent.isControl c || [' ', '"', '#', '<', '>', '?', '^', '`', '\x7b', '\x7d'].contains c

def isEscapedInQuery (c : Char) : Bool :=
  Percent.isControl c || [' ', '"', '#', '<', '>', '\''].contains c

/-- A segment with its encoded dots written out. -/
def dots : List Char → List Char
  | '%' :: '2' :: 'e' :: s | '%' :: '2' :: 'E' :: s => '.' :: dots s
  | c :: s => c :: dots s
  | [] => []

/-- One segment more, where `done` holds those before it, the last first. One dot stays where it is,
two go back by one. -/
def push (done : List (List Char)) (segment : List Char) : List (List Char) :=
  if dots segment = ['.'] then done
  else if dots segment = ['.', '.'] then done.drop 1
  else segment :: done

/-- The last segment. It leaves an empty one where it would leave none. -/
def pushLast (done : List (List Char)) (segment : List Char) : List (List Char) :=
  if dots segment = ['.'] then [] :: done
  else if dots segment = ['.', '.'] then [] :: done.drop 1
  else segment :: done

def resolveFrom (done : List (List Char)) : List (List Char) → List (List Char)
  | [] => done.reverse
  | [last] => (pushLast done last).reverse
  | segment :: rest => resolveFrom (push done segment) rest

/-- The segments that are left of a path once its dots are followed. -/
def resolve (segments : List (List Char)) : List (List Char) :=
  resolveFrom [] segments

/-- The segments of a path after its first slash. A backslash counts as a slash. -/
def segmentsOf (path : List Char) : List (List Char) :=
  let slashes := path.map fun c => if c = '\\' then '/' else c
  resolve ((Text.pieces '/' (slashes.drop 1)).map (Percent.encode isEscapedInPath))

/-! ## The whole -/

def ofChars? (text : List Char) : Option Address := do
  let (scheme, s) ← scheme? (cleaned text)
  let s := (s.dropWhile isSlash).takeWhile (· != '#')
  let authority := s.takeWhile fun c => !(isSlash c || c == '?')
  let s := s.drop authority.length
  let (host, portText) := hostPort (withoutUser authority)
  let port ← port? scheme portText
  if !isHost host then none
  let path := s.takeWhile (· != '?')
  let query := match s.drop path.length with
    | '?' :: q => some (Percent.encode isEscapedInQuery q)
    | _ => none
  return ⟨scheme, Text.lower host, port, segmentsOf path, query⟩

def ofString? (text : String) : Option Address :=
  ofChars? text.toList

/-- With pairs after the query that is there already. -/
def withParams (a : Address) (params : List (String × String)) : Address :=
  if params.isEmpty then a
  else
    let before := match a.query with
      | none | some [] => []
      | some q => q ++ ['&']
    { a with query := some (before ++ Form.text params) }

/-- Path and query as a request names them. -/
def target (a : Address) : String :=
  let query := match a.query with
    | none => []
    | some q => '?' :: q
  .ofList ('/' :: Text.joined '/' a.segments ++ query)

end Address

end Portal

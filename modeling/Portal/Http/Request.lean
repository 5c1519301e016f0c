import Portal.Json.Basic
import Portal.Text.Basic

/-!
# Calls

One call to the portal, whoever sends it. Its endpoint is relative to the base address.
-/

namespace Portal

/-!
## Headers

Names and values in the order they were added. Names are compared without regard to case, so they
are kept in small letters; a name may have several values.
-/

abbrev Headers := List (String × String)

namespace Headers

def name (s : String) : String :=
  .ofList (Text.lower s.toList)

def empty : Headers := []

/-- All values of a name, in order. -/
def values (hs : Headers) (key : String) : List String :=
  (hs.filter fun h => h.1 = name key).map (·.2)

def contains (hs : Headers) (key : String) : Bool :=
  hs.any fun h => h.1 = name key

/-- The first value of a name. -/
def get? (hs : Headers) (key : String) : Option String :=
  hs.lookup (name key)

def append (hs : Headers) (key value : String) : Headers :=
  hs ++ [(name key, value)]

def erase (hs : Headers) (key : String) : Headers :=
  hs.filter fun h => h.1 ≠ name key

/-- The only value of a name from now on. -/
def insert (hs : Headers) (key value : String) : Headers :=
  append (erase hs key) key value

/-- Each name once. -/
def keys (hs : Headers) : List String :=
  (hs.map (·.1)).eraseDups

/-- The values that `gs` has of a name, in place of those that `hs` has. -/
def takeFrom (hs gs : Headers) (key : String) : Headers :=
  (hs.filter fun h => h.1 ≠ key) ++ gs.filter fun h => h.1 = key

/-- The defaults, except that a name which `overrides` has keeps none of its default values. -/
def merge (defaults overrides : Headers) : Headers :=
  (keys overrides).foldl (fun merged key => takeFrom merged overrides key) defaults

/-- No control character other than a tab. -/
def isValue (s : String) : Bool :=
  s.toList.all fun c => c == '\t' || (0x20 ≤ c.toNat && c.toNat != 0x7F)

/-- Nothing but visible ASCII characters, spaces and tabs. -/
def isText (s : String) : Bool :=
  s.toList.all fun c => c == '\t' || (0x20 ≤ c.toNat && c.toNat < 0x7F)

end Headers

/-! ## Requests -/

structure ApiRequest where
  method : String
  endpoint : String
  query : List (String × String)
  body : Option Json
  /-- These win over the client's own. -/
  headers : Headers

namespace ApiRequest

def ofMethod (method endpoint : String) : ApiRequest :=
  ⟨method, endpoint, [], none, .empty⟩

def get (endpoint : String) : ApiRequest :=
  ofMethod "GET" endpoint

def post (endpoint : String) : ApiRequest :=
  ofMethod "POST" endpoint

def put (endpoint : String) : ApiRequest :=
  ofMethod "PUT" endpoint

def withParam (r : ApiRequest) (key value : String) : ApiRequest :=
  { r with query := r.query ++ [(key, value)] }

/-- Unless there is no value or an empty one. -/
def withParam? (r : ApiRequest) (key : String) : Option String → ApiRequest
  | none => r
  | some value => if value.isEmpty then r else r.withParam key value

def withBody (r : ApiRequest) (body : Json) : ApiRequest :=
  { r with body := some body }

def withHeader (r : ApiRequest) (key value : String) : ApiRequest :=
  { r with headers := r.headers.insert key value }

end ApiRequest

end Portal

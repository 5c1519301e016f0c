import Portal.Envelope

/-!
# Search

An answer keeps its data as it came. What is found in it is looked up in the data each time, so the
views cannot disagree with it.
-/

namespace Portal

/-! ## Queries -/

structure SearchQuery where
  query : String
  limit : UInt32
  offset : UInt32
  repo : Option String
  classification : Option String
  deriving DecidableEq

namespace SearchQuery

def defaultLimit : UInt32 := 20

def defaultSuggestionCount : UInt32 := 10

def ofText (query : String) : SearchQuery :=
  ⟨query, defaultLimit, 0, none, none⟩

/-- A filter, unless it is empty. -/
def filterParam (key : String) : Option String → List (String × String)
  | none => []
  | some v => if v.isEmpty then [] else [(key, v)]

def params (q : SearchQuery) : List (String × String) :=
  [("q", q.query), ("limit", toString q.limit), ("offset", toString q.offset)] ++
    filterParam "repo" q.repo ++ filterParam "classification" q.classification

end SearchQuery

/-! ## Answers -/

structure SearchResult where
  id : String
  repoName : String
  path : String
  name : String
  contentType : Option String
  size : Option UInt64
  modifiedAt : Option Timestamp
  classification : Option String
  score : Option Number.Binary64
  /-- Snippets by field. -/
  highlights : Option (List (String × List String))
  deriving DecidableEq

def SearchResult.wire : Wire SearchResult :=
  .record "SearchResult" SearchResult.mk <|
    .required "id" .string (·.id) <|
    .required "repo_name" .string (·.repoName) <|
    .required "path" .string (·.path) <|
    .required "name" .string (·.name) <|
    .optional "content_type" .string (·.contentType) <|
    .optional "size" .count (·.size) <|
    .optional "modified_at" .time (·.modifiedAt) <|
    .optional "classification" .string (·.classification) <|
    .optional "score" .real (·.score) <|
    .optional "highlights" Wire.string.list.table (·.highlights) .done

structure FacetValue where
  value : String
  count : UInt64
  deriving DecidableEq

namespace FacetValue

/-- Numbers and truth values count as their texts. -/
def valueWire : Wire String where
  decode
    | .string s => .ok s
    | .bool b => .ok (toString b)
    | .int n => .ok (toString n)
    | .float x => .ok (Json.floatText x)
    | v => .error (.notAFacetValue v)
  encode := .string

def wire : Wire FacetValue :=
  .record "FacetValue" FacetValue.mk <|
    .required "value" valueWire (·.value) <|
    .required "count" .count (·.count) .done

end FacetValue

structure SearchFacet where
  name : String
  values : List FacetValue
  deriving DecidableEq

def SearchFacet.wire : Wire SearchFacet :=
  .record "SearchFacet" SearchFacet.mk <|
    .required "name" .string (·.name) <|
    .required "values" FacetValue.wire.list (·.values) .done

structure SearchResponse where
  success : Bool
  data : Json

namespace SearchResponse

def wire : Wire SearchResponse :=
  .record "SearchResponse" SearchResponse.mk <|
    .required "success" .bool (·.success) <|
    .required "data" .any (·.data) .done

/-- The member `key` of the data, unless it is `null`. -/
def view? (r : SearchResponse) (key : String) : Option Json :=
  match r.data.get? key with
  | none | some .null => none
  | some v => some v

def listView (w : Wire α) (key what : String) (r : SearchResponse) :
    Except PortalError (List α) :=
  match r.view? key with
  | none => .ok []
  | some v => w.list.decodeAs what v

def results : SearchResponse → Except PortalError (List SearchResult) :=
  listView SearchResult.wire "results" "search results"

def facets : SearchResponse → Except PortalError (List SearchFacet) :=
  listView SearchFacet.wire "facets" "search facets"

def countView (key : String) (default : UInt64) (r : SearchResponse) :
    Except PortalError UInt64 :=
  match r.view? key with
  | none => .ok default
  | some v =>
    match v.count? with
    | some n => .ok n
    | none =>
      .error (.decode s!"search `{key}` must be a non-negative integer, got {v.text}")

def total : SearchResponse → Except PortalError UInt64 :=
  countView "total" 0

def limit : SearchResponse → Except PortalError UInt64 :=
  countView "limit" SearchQuery.defaultLimit.toUInt64

def offset : SearchResponse → Except PortalError UInt64 :=
  countView "offset" 0

end SearchResponse

end Portal

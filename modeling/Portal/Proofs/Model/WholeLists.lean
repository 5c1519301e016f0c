import Portal.Client.Operation
import Portal.Proofs.Model.Envelopes
import Portal.Proofs.Wire.Lists
import Portal.Proofs.Wire.Records

/-!
# Lists are whole

Repositories, the entries of a tree, the results of a search and its facets with their values come
as lists. What is read has a value for each item, in the same order, or it is an error that says what
is wrong with the first bad item.
-/

namespace Portal

variable {items : List Json}

/-- The error for what could not be read as what `what` says. -/
def misread (what : String) (fault : Wire.Fault) : PortalError :=
  .decode s!"{what}: {fault.message}"

theorem Wire.readsAllOrNothing_decodeAs (w : Wire α) (items : List Json) (what : String) :
    ReadsAllOrNothing w items id (misread what) (w.list.decodeAs what (.array items)) :=
  (readsAllOrNothing_decodeItems w items).mapError (misread what)

theorem TreeResponse.decode_pair {success : Bool} {v : Json}
    (h : IsPair "success" "data" (.bool success) (.array items) v) :
    wire.decode v = (Wire.decodeItems TreeEntry.wire items).map (TreeResponse.mk success) :=
  Wire.record_decode_pair (by decide) rfl h "TreeResponse"

theorem SearchFacet.decode_pair {name : String} {v : Json}
    (h : IsPair "name" "values" (.string name) (.array items) v) :
    wire.decode v = (Wire.decodeItems FacetValue.wire items).map (SearchFacet.mk name) :=
  Wire.record_decode_pair (by decide) rfl h "SearchFacet"

theorem SearchResponse.listView_array {r : SearchResponse} {key : String}
    (h : r.data.get? key = some (.array items)) (w : Wire α) (what : String) :
    r.listView w key what = w.list.decodeAs what (.array items) := by
  rw [listView, view?, h]

theorem Envelope.payloadOr_array {ms : Members} (h : ms.get? "data" = some (.array items))
    (default : α) (w : Wire α) (what : String) :
    payloadOr default w what (.object ms) = w.decodeAs what (.array items) :=
  payloadOr_of_data w default what h nofun

/-- Every list is read as a whole or not at all: the repositories in an envelope, the entries of a
tree, the results and the facets of a search, and the values of each facet. -/
theorem lists_read_all_or_nothing (items : List Json) :
    (∀ ms : Members, ms.get? "data" = some (.array items) →
      ReadsAllOrNothing Repository.wire items id (misread "repository list")
        (Operation.listRepositories.read (.object ms))) ∧
    (∀ (success : Bool) (v : Json), IsPair "success" "data" (.bool success) (.array items) v →
      ∀ what, ReadsAllOrNothing TreeEntry.wire items (TreeResponse.mk success) (misread what)
        (TreeResponse.wire.decodeAs what v)) ∧
    (∀ r : SearchResponse, r.data.get? "results" = some (.array items) →
      ReadsAllOrNothing SearchResult.wire items id (misread "search results") r.results) ∧
    (∀ r : SearchResponse, r.data.get? "facets" = some (.array items) →
      ReadsAllOrNothing SearchFacet.wire items id (misread "search facets") r.facets) ∧
    ∀ (name : String) (v : Json), IsPair "name" "values" (.string name) (.array items) v →
      ReadsAllOrNothing FacetValue.wire items (SearchFacet.mk name) id
        (SearchFacet.wire.decode v) := by
  refine ⟨?_, ?_, ?_, ?_, ?_⟩
  · intro ms h
    rw [Operation.read, Envelope.payloadOr_array h]
    exact Wire.readsAllOrNothing_decodeAs _ _ _
  · intro success v h what
    rw [Wire.decodeAs, TreeResponse.decode_pair h]
    exact ((Wire.readsAllOrNothing_decodeItems _ _).map _).mapError (misread what)
  · intro r h
    rw [SearchResponse.results, SearchResponse.listView_array h]
    exact Wire.readsAllOrNothing_decodeAs _ _ _
  · intro r h
    rw [SearchResponse.facets, SearchResponse.listView_array h]
    exact Wire.readsAllOrNothing_decodeAs _ _ _
  · intro name v h
    rw [SearchFacet.decode_pair h]
    exact (Wire.readsAllOrNothing_decodeItems _ _).map _

def counted (value : Json) : Json :=
  .object [("count", .int 2), ("value", value)]

def oddValues : List Json :=
  [counted (.int 7), counted .null, counted (.array [])]

def oddFacet : Json :=
  .object [("name", .string "year"), ("values", .array oddValues)]

/-- A facet as an array, with nothing odd in it, and the odd one after it. -/
def mixedFacets : List Json :=
  [.array [.string "kind", .array [counted (.bool true)]], oddFacet]

def mixedSearch : SearchResponse :=
  ⟨true, .object [("facets", .array mixedFacets)]⟩

theorem facets_fail_at_first_odd_value :
    mixedSearch.facets = .error (misread "search facets" (.notAFacetValue .null)) ∧
      (∃ fault, misread "search facets" (.notAFacetValue .null) = misread "search facets" fault ∧
        SearchFacet.wire.FirstFault mixedFacets fault) ∧
      FacetValue.wire.FirstFault oddValues (.notAFacetValue .null) := by
  -- The second of three values is reported, and the facet before it does not come through.
  obtain ⟨-, -, -, hfacets, -⟩ := lists_read_all_or_nothing mixedFacets
  obtain ⟨-, -, -, -, hvalues⟩ := lists_read_all_or_nothing oddValues
  have hpair : IsPair "name" "values" (.string "year") (.array oddValues) oddFacet :=
    .object (by unfold Members.IsOrdered; decide) rfl rfl
  refine ⟨rfl, (hfacets mixedSearch rfl).first_fault _ rfl, ?_⟩
  obtain ⟨fault, rfl, hfirst⟩ := (hvalues "year" oddFacet hpair).first_fault _ rfl
  exact hfirst

end Portal

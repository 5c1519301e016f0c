import Mathlib.Logic.Relation
import Portal.Model.Access
import Portal.Model.Repository
import Portal.Proofs.Wire.SpareMembers
import Portal.Search

/-!
# Models outlive new members

A server may add members to the objects it sends. A model is read from them as before, and so are the
models inside it, with the same fault if there is one. A field that may be left out may also be
`null`.
-/

namespace Portal

/-- The models that have fields: the names of all fields, and of those that need not have a value. -/
inductive IsRecord : {α : Type} → Wire α → (names options : List String) → Prop
  | repository : IsRecord Repository.wire
      ["id", "name", "description", "created_at", "updated_at", "tenant_id"]
      ["description", "tenant_id"]
  | treeEntry : IsRecord TreeEntry.wire
      ["path", "name", "type", "size", "modified_at", "content_type", "classification"]
      ["size", "modified_at", "content_type", "classification"]
  | treeResponse : IsRecord TreeResponse.wire ["success", "data"] []
  | uploadInitResponse : IsRecord UploadInitResponse.wire
      ["upload_id", "presigned_url", "expires_at"] []
  | commitResponse : IsRecord CommitResponse.wire
      ["commit_id", "message", "created_at", "files_count"] []
  | exportResponse : IsRecord ExportResponse.wire
      ["export_id", "status", "created_at", "download_url"] ["download_url"]
  | healthResponse : IsRecord HealthResponse.wire
      ["status", "timestamp", "version", "uptime"] ["version", "uptime"]
  | policy : IsRecord Policy.wire
      ["id", "tenant_id", "name", "effect", "actions", "resources", "condition", "created_at",
        "updated_at"]
      ["condition"]
  | tenant : IsRecord Tenant.wire ["id", "name", "created_at"] []
  | subjectAttribute : IsRecord SubjectAttribute.wire ["subject", "key", "value", "created_at"] []
  | searchResult : IsRecord SearchResult.wire
      ["id", "repo_name", "path", "name", "content_type", "size", "modified_at", "classification",
        "score", "highlights"]
      ["content_type", "size", "modified_at", "classification", "score", "highlights"]
  | facetValue : IsRecord FacetValue.wire ["value", "count"] []
  | searchFacet : IsRecord SearchFacet.wire ["name", "values"] []
  | searchResponse : IsRecord SearchResponse.wire ["success", "data"] []
  | apiResponse {α : Type} (data : Wire α) : IsRecord (ApiResponse.wire data)
      ["success", "data", "error", "message"] ["error", "message"]

/-- The second value is the first with one member more in the object of a model: a member that is no
field, or an optional field as `null`. The model is the whole value, or it is inside it, as an item
of a list or in a field. -/
inductive Grows : {α : Type} → Wire α → Json → Json → Prop
  | member {α : Type} {w : Wire α} {names options : List String} (hw : IsRecord w names options)
      {key : String} (hkey : key ∉ names) (ms : Members) (value : Json) :
      Grows w (.object ms) (.object (ms.insert key value))
  | null {α : Type} {w : Wire α} {names options : List String} (hw : IsRecord w names options)
      {key : String} (hkey : key ∈ options) {ms : Members} (hms : ms.get? key = none) :
      Grows w (.object ms) (.object (ms.insert key .null))
  | item {α : Type} {w : Wire α} {u v : Json} (h : Grows w u v) (before after : List Json) :
      Grows w.list (.array (before ++ u :: after)) (.array (before ++ v :: after))
  | entries {u v o o' : Json} (h : Grows TreeEntry.wire.list u v)
      (ho : DifferAt "data" 1 u v o o') : Grows TreeResponse.wire o o'
  | facetValues {u v o o' : Json} (h : Grows FacetValue.wire.list u v)
      (ho : DifferAt "values" 1 u v o o') : Grows SearchFacet.wire o o'
  | payload {α : Type} {data : Wire α} {u v o o' : Json} (h : Grows data u v)
      (ho : DifferAt "data" 1 u v o o') : Grows (ApiResponse.wire data) o o'

/-! ## One member -/

theorem IsRecord.exists_fields {w : Wire α} {names options : List String}
    (h : IsRecord w names options) :
    ∃ (κ : Type) (name : String) (make : κ) (fields : Fields α κ), w = .record name make fields ∧
      fields.names = names ∧ ∀ key ∈ options, fields.ReadsAsAbsent key .null := by
  cases h <;> exact ⟨_, _, _, _, rfl, rfl, by simp⟩

theorem decode_eq_of_grows {w : Wire α} {u v : Json} (h : Grows w u v) :
    w.decode u = w.decode v := by
  induction h with
  | member hw hkey ms value =>
    obtain ⟨κ, name, make, fields, rfl, rfl, -⟩ := hw.exists_fields
    have hspare (u : Json) := Fields.readsAsAbsent_of_not_mem hkey u
    exact (Wire.record_decode_insert (hspare value) (fun u _ => hspare u) name make).symm
  | null hw hkey hms =>
    obtain ⟨κ, name, make, fields, rfl, -, hnull⟩ := hw.exists_fields
    refine (Wire.record_decode_insert (hnull _ hkey) ?_ name make).symm
    intro u hu
    rw [hms] at hu
    cases hu
  | item h before after ih => exact Wire.list_decode_of_item ih before after
  | entries h ho ih =>
    refine Wire.record_decode_of_differAt ho ?_ ?_ "TreeResponse" TreeResponse.mk
    · exact ⟨by simp, fun _ => ih, trivial⟩
    · exact ih
  | facetValues h ho ih =>
    refine Wire.record_decode_of_differAt ho ?_ ?_ "SearchFacet" SearchFacet.mk
    · exact ⟨by simp, fun _ => ih, trivial⟩
    · exact ih
  | payload h ho ih =>
    refine Wire.record_decode_of_differAt ho ?_ ?_ "ApiResponse" ApiResponse.mk
    · exact ⟨by simp, fun _ => ih, by simp, by simp, trivial⟩
    · exact ih

/-! ## Any number of members -/

/-- Values that differ only in members which were added, or taken away again, in any number of places
are read as the same model, or cannot be read for the same reason. -/
theorem decodeAs_eq_of_growth {w : Wire α} {u v : Json} (h : Relation.EqvGen (Grows w) u v)
    (what : String) : w.decodeAs what u = w.decodeAs what v := by
  have hdecode : w.decode u = w.decode v := by
    induction h with
    | rel u v h => exact decode_eq_of_grows h
    | refl u => rfl
    | symm u v h ih => exact ih.symm
    | trans u v x h h' ih ih' => exact ih.trans ih'
  rw [Wire.decodeAs, Wire.decodeAs, hdecode]

def shortEntry : Members :=
  [("name", .string "d"), ("path", .string "a/d"), ("type", .string "dir")]

/-- A name for the kind that is not the one on the wire, and no size. -/
def longEntry : Members :=
  (shortEntry.insert "kind" (.int 1)).insert "size" .null

def treeOf (entry : Members) : Members :=
  [("data", .array [.object entry]), ("success", .bool true)]

theorem grown_tree_reads_as_before :
    Relation.EqvGen (Grows TreeResponse.wire) (.object (treeOf shortEntry))
      (.object ((treeOf longEntry).insert "cursor" (.array []))) ∧
    TreeResponse.wire.decodeAs "tree response"
        (.object ((treeOf longEntry).insert "cursor" (.array []))) =
      .ok ⟨true, [⟨"a/d", "d", .directory, none, none, none, none⟩]⟩ := by
  have inTree {u v : Json} (h : Grows TreeEntry.wire u v) :
      Grows TreeResponse.wire (.object [("data", .array [u]), ("success", .bool true)])
        (.object [("data", .array [v]), ("success", .bool true)]) :=
    .entries (.item h [] []) (.member [] _)
  have hkind : Grows TreeEntry.wire (.object shortEntry)
      (.object (shortEntry.insert "kind" (.int 1))) := .member .treeEntry (by simp) _ _
  have hsize : Grows TreeEntry.wire (.object (shortEntry.insert "kind" (.int 1)))
      (.object longEntry) := .null .treeEntry (by simp) rfl
  have hcursor : Grows TreeResponse.wire (.object (treeOf longEntry))
      (.object ((treeOf longEntry).insert "cursor" (.array []))) :=
    .member .treeResponse (by simp) _ _
  have hgrown := ((Relation.EqvGen.rel _ _ (inTree hkind)).trans _ _ _
    (.rel _ _ (inTree hsize))).trans _ _ _ (.rel _ _ hcursor)
  exact ⟨hgrown, (decodeAs_eq_of_growth hgrown "tree response").symm⟩

end Portal

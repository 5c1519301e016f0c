import Portal.Model.Access
import Portal.Model.Repository
import Portal.Proofs.Wire.RoundTrip
import Portal.Search

/-!
# Models are stable under re-encoding

A JSON value may say the same in several ways: an object or an array, a name or its alias, a time
in any zone. Once read, a model is written in one way, and read again as the same model.
-/

namespace Portal

open Wire (record_roundTrips choice_roundTrips)

/-! ## Each model -/

@[simp] theorem Repository.wire_roundTrips : wire.RoundTrips :=
  record_roundTrips (by simp) (by simp) fun _ => rfl

@[simp] theorem EntryKind.wire_roundTrips : wire.RoundTrips :=
  choice_roundTrips (by rintro (_ | _) <;> rfl)

@[simp] theorem TreeEntry.wire_roundTrips : wire.RoundTrips :=
  record_roundTrips (by simp) (by simp) fun _ => rfl

@[simp] theorem TreeResponse.wire_roundTrips : wire.RoundTrips :=
  record_roundTrips (by simp) (by simp) fun _ => rfl

@[simp] theorem UploadInitResponse.wire_roundTrips : wire.RoundTrips :=
  record_roundTrips (by simp) (by simp) fun _ => rfl

@[simp] theorem CommitResponse.wire_roundTrips : wire.RoundTrips :=
  record_roundTrips (by simp) (by simp) fun _ => rfl

@[simp] theorem ExportResponse.wire_roundTrips : wire.RoundTrips :=
  record_roundTrips (by simp) (by simp) fun _ => rfl

@[simp] theorem HealthResponse.wire_roundTrips : wire.RoundTrips :=
  record_roundTrips (by simp) (by simp) fun _ => rfl

@[simp] theorem PolicyEffect.wire_roundTrips : wire.RoundTrips :=
  choice_roundTrips (by rintro (_ | _) <;> rfl)

@[simp] theorem Policy.wire_roundTrips : wire.RoundTrips :=
  record_roundTrips (by simp) (by simp) fun _ => rfl

@[simp] theorem Tenant.wire_roundTrips : wire.RoundTrips :=
  record_roundTrips (by simp) (by simp) fun _ => rfl

@[simp] theorem SubjectAttribute.wire_roundTrips : wire.RoundTrips :=
  record_roundTrips (by simp) (by simp) fun _ => rfl

@[simp] theorem SearchResult.wire_roundTrips : wire.RoundTrips :=
  have hsnippets : Wire.string.list.table.RoundTrips := by simp
  record_roundTrips (by simp [hsnippets]) (by simp) fun _ => rfl

@[simp] theorem FacetValue.valueWire_roundTrips : valueWire.RoundTrips := fun _ => rfl

@[simp] theorem FacetValue.wire_roundTrips : wire.RoundTrips :=
  record_roundTrips (by simp) (by simp) fun _ => rfl

@[simp] theorem SearchFacet.wire_roundTrips : wire.RoundTrips :=
  record_roundTrips (by simp) (by simp) fun _ => rfl

@[simp] theorem SearchResponse.wire_roundTrips : wire.RoundTrips :=
  record_roundTrips (by simp) (by simp) fun _ => rfl

@[simp] theorem ApiResponse.wire_roundTrips {data : Wire α} (h : data.RoundTrips) :
    (wire data).RoundTrips :=
  record_roundTrips (by simp [h]) (by simp) fun _ => rfl

/-! ## All models -/

/-- What an answer is read as. The payload of an envelope is another model or any JSON value. -/
inductive Model : Type → Type 1
  | json : Model Json
  | repository : Model Repository
  | entryKind : Model EntryKind
  | treeEntry : Model TreeEntry
  | treeResponse : Model TreeResponse
  | uploadInitResponse : Model UploadInitResponse
  | commitResponse : Model CommitResponse
  | exportResponse : Model ExportResponse
  | healthResponse : Model HealthResponse
  | policyEffect : Model PolicyEffect
  | policy : Model Policy
  | tenant : Model Tenant
  | subjectAttribute : Model SubjectAttribute
  | searchResult : Model SearchResult
  | facetValue : Model FacetValue
  | searchFacet : Model SearchFacet
  | searchResponse : Model SearchResponse
  | apiResponse {α : Type} (data : Model α) : Model (ApiResponse α)

namespace Model

def wire : Model α → Wire α
  | json => .any
  | repository => Repository.wire
  | entryKind => EntryKind.wire
  | treeEntry => TreeEntry.wire
  | treeResponse => TreeResponse.wire
  | uploadInitResponse => UploadInitResponse.wire
  | commitResponse => CommitResponse.wire
  | exportResponse => ExportResponse.wire
  | healthResponse => HealthResponse.wire
  | policyEffect => PolicyEffect.wire
  | policy => Policy.wire
  | tenant => Tenant.wire
  | subjectAttribute => SubjectAttribute.wire
  | searchResult => SearchResult.wire
  | facetValue => FacetValue.wire
  | searchFacet => SearchFacet.wire
  | searchResponse => SearchResponse.wire
  | apiResponse data => ApiResponse.wire data.wire

theorem wire_roundTrips (m : Model α) : m.wire.RoundTrips := by
  induction m with
  | apiResponse data ih => exact ApiResponse.wire_roundTrips ih
  | _ => simp [wire]

/-- Every value of a model is written as a JSON value that is read as the same again, so whatever it
was read from. -/
theorem decodeAs_encode (m : Model α) (what : String) (a : α) :
    m.wire.decodeAs what (m.wire.encode a) = .ok a := by
  rw [Wire.decodeAs, m.wire_roundTrips a]
  rfl

theorem loose_entry_is_stable :
    ∃ e, treeEntry.wire.decodeAs "tree entry" (.array
        [.string "a/b", .string "b", .object [("dir", .null)], .int 7,
          .string "2024-01-01 00:30:60.5+01:00"]) = .ok e ∧ e.kind = .directory ∧
      treeEntry.wire.decodeAs "tree entry" (treeEntry.wire.encode e) = .ok e := by
  let e : TreeEntry :=
    { path := "a/b", name := "b", kind := .directory, size := some 7, contentType := none,
      classification := none,
      modifiedAt := some
        { date := ⟨2023, 12, 31, by decide⟩, hour := 23, minute := 30, second := 60,
          nanos := 500000000, in_day := by decide } }
  have he : treeEntry.wire.decodeAs "tree entry" (.array
      [.string "a/b", .string "b", .object [("dir", .null)], .int 7,
        .string "2024-01-01 00:30:60.5+01:00"]) = .ok e := rfl
  exact ⟨e, he, rfl, treeEntry.decodeAs_encode "tree entry" e⟩

end Model

/-! ## Loose forms -/

/-- `v` can be read, and what it says is written as `u`. -/
def Wire.Settles (w : Wire α) (v u : Json) : Prop :=
  ∃ a, w.decode v = .ok a ∧ w.encode a = u

/-- Forms that are read, each with what is written for it. Only a name that is no alias and `null`
are written as they are. -/
inductive IsLoose : {α : Type} → Wire α → Json → Json → Prop
  | facetInteger (n : Int) : IsLoose FacetValue.valueWire (.int n) (.string (toString n))
  | facetDouble (x : Number.Binary64) :
      IsLoose FacetValue.valueWire (.float x) (.string (Json.floatText x))
  | facetTruth (b : Bool) : IsLoose FacetValue.valueWire (.bool b) (.string (toString b))
  | wholeDouble (n : Int) : IsLoose .real (.int n) (.float (.ofInt n))
  | nothing {α : Type} (w : Wire α) : IsLoose w.option .null .null
  | name {α : Type} {names : List (String × α)} {write : α → String} {k : String} {a : α}
      (h : names.lookup k = some a) :
      IsLoose (.choice names write) (.string k) (.string (write a))
  | nameObject {α : Type} {names : List (String × α)} {write : α → String} {k : String} {a : α}
      (h : names.lookup k = some a) :
      IsLoose (.choice names write) (.object [(k, .null)]) (.string (write a))
  | signedYear (t : Timestamp) (width : Nat) (h : 0 ≤ t.date.year) :
      IsLoose .time
        (.string (.ofList ('+' :: Text.paddedDigits width t.date.year.toNat ++ t.afterYear)))
        (.string t.text)

theorem IsLoose.settles {w : Wire α} {v u : Json} (h : IsLoose w v u) : w.Settles v u := by
  cases h with
  | facetInteger n => exact ⟨toString n, rfl, rfl⟩
  | facetDouble x => exact ⟨Json.floatText x, rfl, rfl⟩
  | facetTruth b => exact ⟨toString b, rfl, rfl⟩
  | wholeDouble n => exact ⟨.ofInt n, rfl, rfl⟩
  | nothing w => exact ⟨none, rfl, rfl⟩
  | name h =>
    refine ⟨_, ?_, rfl⟩
    simp only [Wire.choice, Wire.variant, h]
  | nameObject h =>
    refine ⟨_, ?_, rfl⟩
    simp only [Wire.choice, Wire.variant, h]
    rfl
  | signedYear t width h => exact ⟨t, Wire.time_decode (t.parse_signed width h), rfl⟩

/-- A loose form is read like what is written for it. -/
theorem IsLoose.decode_eq {w : Wire α} (hw : w.RoundTrips) {v u : Json} (h : IsLoose w v u) :
    w.decode v = w.decode u := by
  obtain ⟨a, ha, rfl⟩ := h.settles
  rw [ha, hw a]

end Portal

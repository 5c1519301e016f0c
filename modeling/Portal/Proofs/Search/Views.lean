import Portal.Proofs.Wire.RoundTrip
import Portal.Search

/-!
# What the views of a search tell

A view has a default for data that leaves it out. Over an object, or over `null`, it says exactly
what was sent or that this cannot be read. Other data leaves nothing out, since nothing can be looked
up in it, and yet every view gives its default there.
-/

namespace Portal.SearchResponse

/-- The data has nothing for the view: it is `null`, or it is an object without the key or with
`null` under it. -/
def LeavesOut (data : Json) (key : String) : Prop :=
  data = .null ∨
    ∃ ms : Members, data = .object ms ∧ (ms.get? key = none ∨ ms.get? key = some .null)

/-- The data has the value under the key. -/
def Sends (data : Json) (key : String) (v : Json) : Prop :=
  v ≠ .null ∧ ∃ ms : Members, data = .object ms ∧ ms.get? key = some v

/-- The view gives its default for what is left out and for nothing else. For what is there it gives
what that says, or it fails because it cannot read it. -/
structure TellsAll (data : Json) (key : String) (means : Json → α → Prop) (default : α)
    (view : Except PortalError α) : Prop where
  left_out : LeavesOut data key → view = .ok default
  exact : ∀ v a, Sends data key v → means v a → view = .ok a
  honest : ¬ LeavesOut data key →
    (∃ v a, Sends data key v ∧ means v a ∧ view = .ok a) ∨ ∃ m, view = .error (.decode m)

/-- The count is the integer that was sent. -/
def SaysCount (v : Json) (n : UInt64) : Prop :=
  v = .int n.toNat

/-- The items are those of the array that was sent. -/
def SaysList (w : Wire α) (v : Json) (as : List α) : Prop :=
  w.list.decode v = .ok as

/-- No view hides anything behind its default. -/
structure HidesNothing (r : SearchResponse) : Prop where
  results : TellsAll r.data "results" (SaysList SearchResult.wire) [] r.results
  total : TellsAll r.data "total" SaysCount 0 r.total
  limit : TellsAll r.data "limit" SaysCount 20 r.limit
  offset : TellsAll r.data "offset" SaysCount 0 r.offset
  facets : TellsAll r.data "facets" (SaysList SearchFacet.wire) [] r.facets

/-- Data in which something can be left out. -/
def CanLeaveOut (data : Json) : Prop :=
  data = .null ∨ ∃ ms : Members, data = .object ms

theorem LeavesOut.canLeaveOut {data : Json} {key : String} (h : LeavesOut data key) :
    CanLeaveOut data := by
  rcases h with h | ⟨ms, h, -⟩
  · exact Or.inl h
  · exact Or.inr ⟨ms, h⟩

variable {r : SearchResponse} {key : String} {v : Json}

/-! ## What is looked up -/

theorem view?_of_no_object (h : ∀ ms, r.data ≠ .object ms) (key : String) :
    r.view? key = none := by
  cases hdata : r.data with
  | object ms => exact absurd hdata (h ms)
  | _ => rw [view?, hdata]; rfl

theorem view?_of_leavesOut (h : LeavesOut r.data key) : r.view? key = none := by
  rcases h with h | ⟨ms, h, hkey | hkey⟩
  · rw [view?, h]
    rfl
  all_goals
    rw [view?, h, Json.get?, hkey]

theorem view?_of_sends (h : Sends r.data key v) : r.view? key = some v := by
  obtain ⟨hnull, ms, h, hkey⟩ := h
  rw [view?, h, Json.get?, hkey]
  cases v with
  | null => exact absurd rfl hnull
  | _ => rfl

theorem exists_sends (hdata : CanLeaveOut r.data) (h : ¬ LeavesOut r.data key) :
    ∃ v, Sends r.data key v := by
  rcases hdata with hdata | ⟨ms, hdata⟩
  · exact absurd (Or.inl hdata) h
  · cases hkey : ms.get? key with
    | none => exact absurd (Or.inr ⟨ms, hdata, Or.inl hkey⟩) h
    | some v =>
      refine ⟨v, ?_, ms, hdata, hkey⟩
      rintro rfl
      exact h (Or.inr ⟨ms, hdata, Or.inr hkey⟩)

/-! ## What is made of it -/

theorem tellsAll_of_read {means : Json → α → Prop} {read : Json → Except PortalError α}
    (hdata : CanLeaveOut r.data) (hexact : ∀ v a, means v a → read v = .ok a)
    (hhonest : ∀ v, (∃ a, means v a ∧ read v = .ok a) ∨ ∃ m, read v = .error (.decode m))
    (key : String) (default : α) :
    TellsAll r.data key means default ((r.view? key).elim (.ok default) read) where
  left_out h := by
  -- A view is honest if it reads what it finds honestly.
    rw [view?_of_leavesOut h]
    rfl
  exact v a h hmeans := by
    rw [view?_of_sends h]
    exact hexact v a hmeans
  honest h := by
    obtain ⟨v, hv⟩ := exists_sends hdata h
    rw [view?_of_sends hv]
    rcases hhonest v with ⟨a, hmeans, hread⟩ | hfails
    · exact Or.inl ⟨v, a, hv, hmeans, hread⟩
    · exact Or.inr hfails

theorem listView_eq (w : Wire α) (key what : String) (r : SearchResponse) :
    r.listView w key what = (r.view? key).elim (.ok []) (w.list.decodeAs what) := by
  rw [listView]
  cases r.view? key <;> rfl

theorem tellsAll_listView (hdata : CanLeaveOut r.data) (w : Wire α) (key what : String) :
    TellsAll r.data key (SaysList w) [] (r.listView w key what) := by
  rw [listView_eq]
  refine tellsAll_of_read hdata ?_ ?_ key []
  · intro v as h
    rw [Wire.decodeAs, h]
    rfl
  · intro v
    rw [Wire.decodeAs]
    cases h : w.list.decode v with
    | ok as => exact Or.inl ⟨as, h, rfl⟩
    | error fault => exact Or.inr ⟨_, rfl⟩

theorem count?_eq_some_iff (v : Json) (n : UInt64) : v.count? = some n ↔ SaysCount v n := by
  constructor
  · intro h
    cases v with
    | int i =>
      rw [Json.count?] at h
      split at h
      · next hi =>
        cases h
        have hn : i.toNat < UInt64.size := (Int.toNat_lt hi.1).mpr hi.2
        rw [SaysCount, UInt64.toNat_ofNat_of_lt' hn, Int.toNat_of_nonneg hi.1]
      · cases h
    | _ => cases h
  · rintro rfl
    exact Wire.count?_toNat n

/-- What a view of a count makes of the value that it finds. -/
def readCount (key : String) (v : Json) : Except PortalError UInt64 :=
  match v.count? with
  | some n => .ok n
  | none => .error (.decode s!"search `{key}` must be a non-negative integer, got {v.text}")

theorem countView_eq (key : String) (default : UInt64) (r : SearchResponse) :
    r.countView key default = (r.view? key).elim (.ok default) (readCount key) := by
  rw [countView]
  cases r.view? key <;> rfl

theorem tellsAll_countView (hdata : CanLeaveOut r.data) (key : String) (default : UInt64) :
    TellsAll r.data key SaysCount default (r.countView key default) := by
  rw [countView_eq]
  refine tellsAll_of_read hdata ?_ ?_ key default
  · intro v n h
    rw [readCount, (count?_eq_some_iff v n).mpr h]
  · intro v
    rw [readCount]
    cases h : v.count? with
    | some n => exact Or.inl ⟨n, (count?_eq_some_iff v n).mp h, rfl⟩
    | none => exact Or.inr ⟨_, rfl⟩

/-! ## All views -/

theorem hidesNothing_of_canLeaveOut (h : CanLeaveOut r.data) : HidesNothing r where
  results := tellsAll_listView h _ _ _
  total := tellsAll_countView h _ _
  limit := tellsAll_countView h _ _
  offset := tellsAll_countView h _ _
  facets := tellsAll_listView h _ _ _

theorem not_tellsAll {means : Json → α → Prop} {default a : α} (h : ¬ CanLeaveOut r.data) :
    ¬ TellsAll r.data key means default (.ok a) := by
  intro htells
  have hthere : ¬ LeavesOut r.data key := fun hout => h hout.canLeaveOut
  rcases htells.honest hthere with ⟨v, _, ⟨-, ms, hdata, -⟩, -⟩ | ⟨m, hm⟩
  · exact h (Or.inr ⟨ms, hdata⟩)
  · cases hm

theorem total_of_no_object (h : ∀ ms, r.data ≠ .object ms) : r.total = .ok 0 := by
  rw [total, countView_eq, view?_of_no_object h]
  rfl

/-- The views hide nothing just when the data is an object or `null`. Over anything that is no object
each of them gives its default. -/
theorem views_hide_nothing_iff (r : SearchResponse) :
    (HidesNothing r ↔ r.data = .null ∨ ∃ ms, r.data = .object ms) ∧
    ((∀ ms, r.data ≠ .object ms) →
      r.results = .ok [] ∧ r.total = .ok 0 ∧ r.limit = .ok 20 ∧ r.offset = .ok 0 ∧
        r.facets = .ok []) := by
  refine ⟨⟨?_, hidesNothing_of_canLeaveOut⟩, ?_⟩
  · intro hviews
    by_contra hdata
    have htotal := hviews.total
    rw [total_of_no_object fun ms h => hdata (Or.inr ⟨ms, h⟩)] at htotal
    exact not_tellsAll hdata htotal
  · intro h
    refine ⟨?_, total_of_no_object h, ?_, ?_, ?_⟩
    · rw [results, listView_eq, view?_of_no_object h]
      rfl
    · rw [limit, countView_eq, view?_of_no_object h]
      rfl
    · rw [offset, countView_eq, view?_of_no_object h]
      rfl
    · rw [facets, listView_eq, view?_of_no_object h]
      rfl

/-- Hits as an array, without the object around them. -/
def listedHits : SearchResponse :=
  ⟨true, .array [.object [("id", .string "1")]]⟩

/-- Data that is an object, with a total that is no integer. -/
def oddTotal : SearchResponse :=
  ⟨true, .object [("limit", .int 5), ("total", .string "1")]⟩

theorem listed_hits_read_as_none :
    (listedHits.results = .ok [] ∧ listedHits.total = .ok 0 ∧ listedHits.limit = .ok 20 ∧
      listedHits.offset = .ok 0 ∧ listedHits.facets = .ok []) ∧
    HidesNothing oddTotal ∧ oddTotal.limit = .ok 5 ∧
      oddTotal.total = .error (.decode
        "search `total` must be a non-negative integer, got \"1\"") := by
  have htells : HidesNothing oddTotal :=
    (views_hide_nothing_iff oddTotal).1.mpr (Or.inr ⟨_, rfl⟩)
  refine ⟨(views_hide_nothing_iff listedHits).2 nofun, htells, ?_, rfl⟩
  exact htells.limit.exact (.int 5) 5 ⟨nofun, _, rfl, rfl⟩ rfl

/-- There are hits, and the view says that there are none. -/
theorem listed_hits_are_hidden : ¬ HidesNothing listedHits := by
  intro h
  have hdata : ¬ CanLeaveOut listedHits.data := by
    rintro (hdata | ⟨ms, hdata⟩) <;> cases hdata
  exact not_tellsAll hdata h.total

end Portal.SearchResponse

import Portal.Http.Request

/-!
# Headers over headers

What a name has once its map is changed or laid over another. The upper map decides about each name
it has, with all of its values, and the lower one about the rest. Maps are the same if every name has
the same values in both, in the same order.
-/

namespace Portal.Headers

variable (hs gs : Headers) (key value n : String)

theorem values_append_list : values (hs ++ gs) n = values hs n ++ values gs n := by
  simp only [values, List.filter_append, List.map_append]

theorem values_filter (p : String → Bool) :
    values (hs.filter fun h => p h.1) n = if p (name n) then values hs n else [] := by
  unfold values
  rw [List.filter_filter]
  split
  · next hp =>
    congr 1
    apply List.filter_congr
    intro h _
    rw [Bool.and_eq_left_iff_imp]
    intro hn
    rwa [of_decide_eq_true hn]
  · next hp =>
    rw [List.map_eq_nil_iff, List.filter_eq_nil_iff]
    intro h _ hboth
    obtain ⟨hn, hph⟩ := Bool.and_eq_true_iff.mp hboth
    rw [of_decide_eq_true hn] at hph
    exact hp hph

theorem values_eq_nil_iff : values hs n = [] ↔ contains hs n = false := by
  rw [values, List.map_eq_nil_iff, List.filter_eq_nil_iff, contains, List.any_eq_false]

theorem values_erase : values (erase hs key) n = if name n = name key then [] else values hs n := by
  rw [erase, values_filter hs n fun m => m ≠ name key]
  by_cases h : name n = name key <;> simp [h]

theorem values_insert :
    values (insert hs key value) n = if name n = name key then [value] else values hs n := by
  rw [insert, append, values_append_list, values_erase]
  by_cases h : name n = name key
  · simp [values, h]
  · simp [values, h, Ne.symm h]

/-! ## Maps laid over each other -/

theorem values_takeFrom :
    values (takeFrom hs gs key) n = if name n = key then values gs n else values hs n := by
  rw [takeFrom, values_append_list, values_filter hs n fun m => m ≠ key,
    values_filter gs n fun m => m = key]
  by_cases h : name n = key <;> simp [h]

theorem contains_iff_mem_keys : contains hs n = true ↔ name n ∈ keys hs := by
  simp [contains, keys, List.mem_eraseDups]

theorem values_foldl_takeFrom (names : List String) :
    values (names.foldl (fun merged key => takeFrom merged gs key) hs) n =
      if name n ∈ names then values gs n else values hs n := by
  induction names generalizing hs with
  | nil => rfl
  | cons key names ih =>
    rw [List.foldl_cons, ih, values_takeFrom]
    by_cases hkey : name n = key <;> simp [hkey]

theorem values_merge :
    values (merge hs gs) n = if contains gs n then values gs n else values hs n := by
  rw [merge, values_foldl_takeFrom]
  simp only [contains_iff_mem_keys]

/-- Under every name the same values in the same order. -/
def Same (hs gs : Headers) : Prop :=
  ∀ n, values hs n = values gs n

/-- The map of headers that are added one after the other, their names written in any case. -/
def ofList (hs : List (String × String)) : Headers :=
  hs.foldl (fun acc h => append acc h.1 h.2) empty

/-- What such headers say of a name. -/
def said (hs : List (String × String)) (n : String) : List String :=
  (hs.filter fun h => name h.1 = name n).map (·.2)

/-! ## What is in a map -/

theorem empty_merge_same : (merge empty hs).Same hs := by
  intro n
  rw [values_merge]
  split
  · rfl
  · next h => exact ((values_eq_nil_iff hs n).mpr (Bool.eq_false_iff.mpr h)).symm

end Portal.Headers

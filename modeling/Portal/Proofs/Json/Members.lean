import Mathlib.Data.List.Nodup
import Portal.Json.Basic

/-!
# Members of an object

Members that are put in one after the other are found under their keys, and nothing else is found.
-/

namespace Portal.Members

variable (key k : String) (value : Json) (ms : Members)

@[simp] theorem get?_nil : get? [] k = none := rfl

theorem get?_cons (p : String × Json) :
    get? (p :: ms) k = if k = p.1 then some p.2 else get? ms k := by
  rw [get?, List.lookup_cons]
  split
  · next h => rw [if_pos (beq_iff_eq.mp h)]
  · next h => rw [if_neg (by simpa using h)]; rfl

theorem get?_eq_none (h : k ∉ ms.map (·.1)) : get? ms k = none := by
  induction ms with
  | nil => rfl
  | cons p ms ih =>
    rw [List.map_cons, List.mem_cons, not_or] at h
    rw [get?_cons, if_neg h.1, ih h.2]

theorem get?_of_mem {p : String × Json} (hkeys : (ms.map (·.1)).Nodup) (h : p ∈ ms) :
    get? ms p.1 = some p.2 := by
  induction ms with
  | nil => cases h
  | cons q ms ih =>
    obtain ⟨hq, hkeys⟩ := List.nodup_cons.mp hkeys
    rw [get?_cons]
    rcases List.mem_cons.mp h with rfl | h
    · exact if_pos rfl
    · rw [if_neg (ne_of_mem_of_not_mem (List.mem_map_of_mem h) hq), ih hkeys h]

theorem mem_of_get? {v : Json} (h : get? ms k = some v) : (k, v) ∈ ms := by
  induction ms with
  | nil => cases h
  | cons p ms ih =>
    rw [get?_cons] at h
    split at h
    · next heq =>
      cases h
      exact heq ▸ List.mem_cons_self
    · exact List.mem_cons_of_mem p (ih h)

theorem get?_append_cons (before after : Members) (u v : Json) :
    get? (before ++ (key, u) :: after) k = get? (before ++ (key, v) :: after) k ∨
      k = key ∧ get? (before ++ (key, u) :: after) k = some u ∧
        get? (before ++ (key, v) :: after) k = some v := by
  induction before with
  | nil =>
    simp only [List.nil_append, get?_cons]
    by_cases h : k = key <;> simp [h]
  | cons p before ih =>
    simp only [List.cons_append, get?_cons]
    split
    · exact Or.inl rfl
    · exact ih

theorem get?_insert :
    (ms.insert key value).get? k = if k = key then some value else ms.get? k := by
  induction ms with
  | nil => rw [insert, get?_cons]
  | cons p ms ih =>
    obtain ⟨l, v⟩ := p
    rw [insert]
    split
    · next heq =>
      subst heq
      simp only [get?_cons]
      split <;> rfl
    · next hne =>
      split
      · rw [get?_cons]
      · simp only [get?_cons, ih]
        by_cases hk : k = l
        · subst hk
          simp [Ne.symm hne]
        · simp [hk]

theorem mem_insert {p : String × Json} (h : p ∈ ms.insert key value) :
    p = (key, value) ∨ p ∈ ms := by
  induction ms with
  | nil => exact Or.inl (List.mem_singleton.mp h)
  | cons q ms ih =>
    rw [insert] at h
    split at h
    · exact (List.mem_cons.mp h).imp_right (List.mem_cons_of_mem q)
    · split at h
      · exact List.mem_cons.mp h
      · rcases List.mem_cons.mp h with h | h
        · exact Or.inr (h ▸ List.mem_cons_self)
        · exact (ih h).imp_right (List.mem_cons_of_mem q)

/-! ## Many members -/

theorem get?_foldl {l : List (String × Json)} (hl : (l.map (·.1)).Nodup) :
    get? (l.foldl (fun acc (k, v) => insert k v acc) ms) k = (get? l k).or (get? ms k) := by
  induction l generalizing ms with
  | nil => rfl
  | cons p l ih =>
    obtain ⟨hp, hl⟩ := List.nodup_cons.mp hl
    rw [List.foldl_cons, ih _ hl, get?_insert, get?_cons]
    by_cases h : k = p.1
    · rw [if_pos h, if_pos h, get?_eq_none k l (h ▸ hp)]
      rfl
    · rw [if_neg h, if_neg h]

theorem get?_ofList {l : List (String × Json)} (hl : (l.map (·.1)).Nodup) :
    (ofList l).get? k = get? l k := by
  -- Of members with different keys none is lost.
  rw [ofList, get?_foldl k [] hl, get?_nil, Option.or_none]

theorem mem_foldl {l : List (String × Json)} {p : String × Json}
    (h : p ∈ l.foldl (fun acc (k, v) => insert k v acc) ms) : p ∈ ms ∨ p ∈ l := by
  induction l generalizing ms with
  | nil => exact Or.inl h
  | cons q l ih =>
    rcases ih _ h with h | h
    · rcases mem_insert _ _ _ h with h | h
      · exact Or.inr (h ▸ List.mem_cons_self)
      · exact Or.inl h
    · exact Or.inr (List.mem_cons_of_mem q h)

theorem mem_ofList {l : List (String × Json)} {p : String × Json} (h : p ∈ ofList l) : p ∈ l :=
  (mem_foldl [] h).resolve_left List.not_mem_nil

/-! ## Order -/

/-- The keys increase, so each of them is there once. -/
def IsOrdered (ms : Members) : Prop :=
  ms.Pairwise fun p q => p.1 < q.1

variable {ms}

theorem IsOrdered.nodup_keys (h : ms.IsOrdered) : (ms.map (·.1)).Nodup :=
  List.pairwise_map.mpr (h.imp String.ne_of_lt)

theorem isOrdered_insert (h : ms.IsOrdered) : (ms.insert key value).IsOrdered := by
  induction ms with
  | nil => exact List.pairwise_singleton _ _
  | cons p ms ih =>
    obtain ⟨l, v⟩ := p
    obtain ⟨hfirst, hrest⟩ := List.pairwise_cons.mp h
    rw [insert]
    split
    · next heq => exact List.pairwise_cons.mpr ⟨fun q hq => heq ▸ hfirst q hq, hrest⟩
    · next hne =>
      split
      · next hlt =>
        refine List.pairwise_cons.mpr ⟨?_, h⟩
        intro q hq
        rcases List.mem_cons.mp hq with rfl | hq
        · exact hlt
        · exact String.lt_trans hlt (hfirst q hq)
      · next hge =>
        have hlt : l < key := String.not_le.mp fun hle =>
          hne (String.le_antisymm hle (String.not_lt.mp hge))
        refine List.pairwise_cons.mpr ⟨?_, ih hrest⟩
        intro q hq
        rcases mem_insert _ _ _ hq with rfl | hq
        · exact hlt
        · exact hfirst q hq

theorem isOrdered_ofList (l : List (String × Json)) : (ofList l).IsOrdered := by
  have hfold (acc : Members) (hacc : acc.IsOrdered) :
      (l.foldl (fun acc (k, v) => insert k v acc) acc).IsOrdered := by
    induction l generalizing acc with
    | nil => exact hacc
    | cons p l ih => exact ih _ (isOrdered_insert _ _ hacc)
  exact hfold [] List.Pairwise.nil

end Portal.Members

import Mathlib.Data.List.DropRight
import Portal.Text.Basic

/-! # Cutting a text and joining it again -/

namespace Portal.Text

variable {c : Char}

/-! ## Pieces -/

theorem splitOnce_of_not_mem {s : List Char} (h : c ∉ s) : splitOnce c s = none := by
  induction s with
  | nil => rfl
  | cons d s ih =>
    simp only [List.mem_cons, not_or] at h
    rw [splitOnce, if_neg (Ne.symm h.1), ih h.2]
    rfl

theorem splitOnce_append_cons {a : List Char} (h : c ∉ a) (b : List Char) :
    splitOnce c (a ++ c :: b) = some (a, b) := by
  induction a with
  | nil => rw [List.nil_append, splitOnce, if_pos rfl]
  | cons d a ih =>
    simp only [List.mem_cons, not_or] at h
    rw [List.cons_append, splitOnce, if_neg (Ne.symm h.1), ih h.2]
    rfl

theorem eq_of_splitOnce {s a b : List Char} (h : splitOnce c s = some (a, b)) :
    s = a ++ c :: b ∧ c ∉ a := by
  induction s generalizing a with
  | nil => cases h
  | cons d s ih =>
    rw [splitOnce] at h
    split at h
    · next hd =>
      cases h
      simp [hd]
    · next hd =>
      obtain ⟨⟨a', b'⟩, hs, heq⟩ := Option.map_eq_some_iff.mp h
      cases heq
      obtain ⟨rfl, ha⟩ := ih hs
      simp [ha, Ne.symm hd]

theorem takeWhile_of_not_mem {s : List Char} (h : c ∉ s) : s.takeWhile (· != c) = s := by
  rw [List.takeWhile_eq_self_iff]
  intro d hd
  rw [bne_iff_ne]
  rintro rfl
  exact h hd

theorem pieces_ne_nil (c : Char) (s : List Char) : pieces c s ≠ [] := by
  cases s with
  | nil => simp [pieces]
  | cons d s =>
    rw [pieces]
    split
    · simp
    · split <;> simp

theorem pieces_cons_of_ne {d : Char} (h : d ≠ c) (s : List Char) :
    ∃ p ps, pieces c s = p :: ps ∧ pieces c (d :: s) = (d :: p) :: ps := by
  obtain ⟨p, ps, hp⟩ := List.exists_cons_of_ne_nil (pieces_ne_nil c s)
  refine ⟨p, ps, hp, ?_⟩
  rw [pieces, if_neg h, hp]

theorem pieces_eq_splitOn (c : Char) (s : List Char) : pieces c s = s.splitOn c := by
  induction s with
  | nil => rfl
  | cons d s ih =>
    rw [List.splitOn_cons_eq_if_modifyHead, ← ih]
    by_cases h : d = c
    · simp [pieces, h]
    · obtain ⟨p, ps, hp, hcons⟩ := pieces_cons_of_ne h s
      rw [hcons, if_neg (by simpa using h), hp, List.modifyHead_cons]

theorem pieces_append_cons (a b : List Char) :
    pieces c (a ++ c :: b) = pieces c a ++ pieces c b := by
  simp only [pieces_eq_splitOn, List.splitOn_append_cons_self]

theorem pieces_of_not_mem {s : List Char} (h : c ∉ s) : pieces c s = [s] := by
  rw [pieces_eq_splitOn, List.splitOn_eq_singleton h]

theorem not_mem_of_mem_pieces {s p : List Char} (h : p ∈ pieces c s) : c ∉ p := by
  induction s generalizing p with
  | nil => simp_all [pieces]
  | cons d s ih =>
    by_cases hd : d = c
    · rw [pieces, if_pos hd, List.mem_cons] at h
      rcases h with rfl | h
      · simp
      · exact ih h
    · obtain ⟨q, qs, hq, hcons⟩ := pieces_cons_of_ne hd s
      rw [hq] at ih
      rw [hcons, List.mem_cons] at h
      rcases h with rfl | h
      · simp [Ne.symm hd, ih List.mem_cons_self]
      · exact ih (List.mem_cons_of_mem q h)

theorem mem_of_mem_pieces {s p : List Char} {d : Char} (h : p ∈ pieces c s) (hd : d ∈ p) :
    d ∈ s := by
  induction s generalizing p with
  | nil => simp_all [pieces]
  | cons e s ih =>
    by_cases he : e = c
    · rw [pieces, if_pos he, List.mem_cons] at h
      rcases h with rfl | h
      · simp at hd
      · exact List.mem_cons_of_mem e (ih h hd)
    · obtain ⟨q, qs, hq, hcons⟩ := pieces_cons_of_ne he s
      rw [hq] at ih
      rw [hcons, List.mem_cons] at h
      rcases h with rfl | h
      · rcases List.mem_cons.mp hd with rfl | hd
        · exact List.mem_cons_self
        · exact List.mem_cons_of_mem e (ih List.mem_cons_self hd)
      · exact List.mem_cons_of_mem e (ih (List.mem_cons_of_mem q h) hd)

/-! ## Joining -/

theorem joined_cons {ps : List (List Char)} (h : ps ≠ []) (p : List Char) :
    joined c (p :: ps) = p ++ c :: joined c ps := by
  obtain ⟨q, qs, rfl⟩ := List.exists_cons_of_ne_nil h
  rfl

theorem joined_append {ps qs : List (List Char)} (hp : ps ≠ []) (hq : qs ≠ []) :
    joined c (ps ++ qs) = joined c ps ++ c :: joined c qs := by
  induction ps with
  | nil => exact absurd rfl hp
  | cons p ps ih =>
    rw [List.cons_append, joined_cons (by simp [hq])]
    cases ps with
    | nil => rfl
    | cons r rs =>
      rw [ih (by simp), joined_cons (List.cons_ne_nil r rs), List.append_assoc, List.cons_append]

theorem mem_joined {ps : List (List Char)} {d : Char} (h : d ∈ joined c ps) :
    d = c ∨ ∃ p ∈ ps, d ∈ p := by
  induction ps with
  | nil => simp [joined] at h
  | cons p ps ih =>
    cases ps with
    | nil => exact Or.inr ⟨p, List.mem_cons_self, h⟩
    | cons q qs =>
      rw [joined_cons (by simp), List.mem_append, List.mem_cons] at h
      rcases h with h | h | h
      · exact Or.inr ⟨p, List.mem_cons_self, h⟩
      · exact Or.inl h
      · rcases ih h with h | ⟨r, hr, hd⟩
        · exact Or.inl h
        · exact Or.inr ⟨r, List.mem_cons_of_mem p hr, hd⟩

theorem pieces_joined_eq_flatMap {ps : List (List Char)} (hne : ps ≠ []) :
    pieces c (joined c ps) = ps.flatMap (pieces c) := by
  induction ps with
  | nil => exact absurd rfl hne
  | cons p ps ih =>
    cases ps with
    | nil => simp [joined]
    | cons q qs =>
      rw [joined_cons (by simp), pieces_append_cons, ih (by simp), ← List.flatMap_cons]

theorem flatMap_pieces {ps : List (List Char)} (h : ∀ p ∈ ps, c ∉ p) :
    ps.flatMap (pieces c) = ps := by
  rw [List.flatMap_congr fun p hp => pieces_of_not_mem (h p hp), List.flatMap_singleton']

theorem pieces_joined {ps : List (List Char)} (hne : ps ≠ []) (h : ∀ p ∈ ps, c ∉ p) :
    pieces c (joined c ps) = ps := by
  rw [pieces_joined_eq_flatMap hne, flatMap_pieces h]

/-! ## Ends -/

variable {p : Char → Bool}

theorem dropEndWhile_eq_rdropWhile (p : Char → Bool) (s : List Char) :
    dropEndWhile p s = s.rdropWhile p := rfl

theorem dropEndWhile_idem (p : Char → Bool) (s : List Char) :
    dropEndWhile p (dropEndWhile p s) = dropEndWhile p s :=
  List.rdropWhile_idempotent p s

theorem dropEndWhile_subset (p : Char → Bool) (s : List Char) : dropEndWhile p s ⊆ s :=
  (List.rdropWhile_prefix p s).subset

theorem dropEndWhile_eq_self {s : List Char} (h : ∀ d ∈ s, p d = false) :
    dropEndWhile p s = s := by
  rw [dropEndWhile_eq_rdropWhile, List.rdropWhile_eq_self_iff]
  intro hne
  simp [h _ (List.getLast_mem hne)]

theorem dropEndWhile_append {a : List Char} (h : dropEndWhile p a = a) (b : List Char) :
    dropEndWhile p (a ++ b) = a ++ dropEndWhile p b := by
  have ha : a.reverse.dropWhile p = a.reverse := by
    rw [← List.reverse_inj, List.reverse_reverse]
    exact h
  unfold dropEndWhile
  rw [List.reverse_append, List.dropWhile_append]
  split
  · next hb => rw [ha, List.isEmpty_iff.mp hb]; simp
  · rw [List.reverse_append, List.reverse_reverse]

theorem dropEndWhile_append_of_ne_nil {b : List Char} (h : dropEndWhile p b ≠ [])
    (a : List Char) : dropEndWhile p (a ++ b) = a ++ dropEndWhile p b := by
  have hb : b.reverse.dropWhile p ≠ [] := by
    intro hnil
    exact h (congrArg List.reverse hnil)
  unfold dropEndWhile
  rw [List.reverse_append, List.dropWhile_append, if_neg (by simpa using hb), List.reverse_append,
    List.reverse_reverse]

theorem dropEndWhile_append_of_all {b : List Char} (h : ∀ d ∈ b, p d = true) (a : List Char) :
    dropEndWhile p (a ++ b) = dropEndWhile p a := by
  unfold dropEndWhile
  rw [List.reverse_append, List.dropWhile_append_of_pos]
  intro d hd
  exact h d (List.mem_reverse.mp hd)

end Portal.Text

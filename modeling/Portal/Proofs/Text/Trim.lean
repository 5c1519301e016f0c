import Portal.Proofs.Text.Pieces

/-! # Blanks at the ends of a text -/

namespace Portal.Text

theorem trim_eq_nil_iff (s : List Char) : trim s = [] ↔ s.all isBlank = true := by
  rw [trim, dropEndWhile_eq_rdropWhile, List.rdropWhile_eq_nil_iff, trimStart, List.all_eq_true]
  constructor
  · intro h c hc
    rw [← List.takeWhile_append_dropWhile (p := isBlank) (l := s), List.mem_append] at hc
    rcases hc with hc | hc
    · exact List.mem_takeWhile_imp hc
    · exact h c hc
  · intro h c hc
    exact h c (List.dropWhile_suffix _ |>.subset hc)

theorem trimStart_cons {c : Char} {s : List Char} (hc : isBlank c = false) :
    trimStart (c :: s) = c :: s :=
  List.dropWhile_cons_of_neg (by simp [hc])

theorem trimStart_append_cons {c : Char} (hc : isBlank c = false) (a b : List Char) :
    trimStart (a ++ c :: b) = trimStart a ++ c :: b := by
  rw [trimStart, trimStart, List.dropWhile_append]
  split
  · next ha =>
    rw [List.isEmpty_iff.mp ha, List.dropWhile_cons_of_neg (by simp [hc])]
    rfl
  · rfl

theorem trim_append_cons {c : Char} (hc : isBlank c = false) (a b : List Char) :
    trim (a ++ c :: b) = trimStart a ++ c :: dropEndWhile isBlank b := by
  have hend : dropEndWhile isBlank [c] = [c] := by simp [dropEndWhile, hc]
  have htail : dropEndWhile isBlank (c :: b) = c :: dropEndWhile isBlank b :=
    dropEndWhile_append hend b
  rw [trim, trimStart_append_cons hc, dropEndWhile_append_of_ne_nil (by simp [htail]), htail]

theorem trim_cons {c : Char} (hc : isBlank c = false) (s : List Char) :
    trim (c :: s) = c :: dropEndWhile isBlank s :=
  trim_append_cons hc [] s

theorem trim_trimStart (s : List Char) : trim (trimStart s) = trim s := by
  rw [trim, trimStart, trimStart, List.dropWhile_idempotent]
  rfl

theorem append_trimStart (s : List Char) :
    ∃ a, (∀ c ∈ a, isBlank c = true) ∧ a ++ trimStart s = s :=
  ⟨s.takeWhile isBlank, fun _ hc => List.mem_takeWhile_imp hc, List.takeWhile_append_dropWhile⟩

theorem trim_append (s : List Char) :
    ∃ b, (∀ c ∈ b, isBlank c = true) ∧ trim s ++ b = trimStart s :=
  ⟨(trimStart s).rtakeWhile isBlank, fun _ hc => List.mem_rtakeWhile_imp hc,
    List.rdropWhile_append_rtakeWhile ..⟩

theorem isBlank_of_trimStart {c : Char} {s t : List Char} (h : trimStart s = c :: t) :
    isBlank c = false := by
  have hhead := List.head?_dropWhile_not isBlank s
  rw [← trimStart, h] at hhead
  exact hhead

theorem trimStart_subset (s : List Char) : trimStart s ⊆ s :=
  (List.dropWhile_suffix _).subset

theorem trim_subset (s : List Char) : trim s ⊆ s :=
  fun _ hc => trimStart_subset s (dropEndWhile_subset _ _ hc)

theorem trim_blank_append {a : List Char} (h : ∀ c ∈ a, isBlank c = true) (s : List Char) :
    trim (a ++ s) = trim s := by
  rw [trim, trimStart, List.dropWhile_append_of_pos h]
  rfl

theorem trim_append_blank {b : List Char} (h : ∀ c ∈ b, isBlank c = true) (s : List Char) :
    trim (s ++ b) = trim s := by
  rw [trim, trimStart, List.dropWhile_append]
  split
  · next hs =>
    -- Nothing but blanks is left of either.
    rw [trim, trimStart, List.isEmpty_iff.mp hs, List.dropWhile_eq_nil_iff.mpr h]
  · exact dropEndWhile_append_of_all h _

theorem trim_dropEndWhile (s : List Char) : trim (dropEndWhile isBlank s) = trim s := by
  have hsplit : dropEndWhile isBlank s ++ s.rtakeWhile isBlank = s :=
    List.rdropWhile_append_rtakeWhile ..
  rw [← trim_append_blank (fun _ hc => List.mem_rtakeWhile_imp hc) (dropEndWhile isBlank s), hsplit]

theorem trim_trim (s : List Char) : trim (trim s) = trim s :=
  (trim_dropEndWhile (trimStart s)).trans (trim_trimStart s)

theorem trim_eq_self {c d : Char} (hc : isBlank c = false) (hd : isBlank d = false)
    (s : List Char) : trim (c :: s ++ [d]) = c :: s ++ [d] := by
  rw [trim, List.cons_append, trimStart_cons hc, ← List.cons_append,
    dropEndWhile_append_of_ne_nil] <;> simp [dropEndWhile, hd]

theorem trim_dropReturn (s : List Char) : trim (dropReturn s) = trim s := by
  rw [dropReturn]
  split
  · next h =>
    obtain ⟨t, rfl⟩ := List.getLast?_eq_some_iff.mp h
    rw [List.dropLast_concat, trim_append_blank (by simp; rfl)]
  · rfl

end Portal.Text

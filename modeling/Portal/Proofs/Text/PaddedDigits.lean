import Mathlib.Algebra.Group.Nat.Defs
import Portal.Proofs.Text.Trim
import Portal.Text.Basic

/-!
# Numbers of a fixed width

`paddedDigits` writes digits only, which write the number that was given. There are as many as the
width says unless the number needs more.
-/

namespace Portal.Text

theorem not_isBlank_of_isDigit {c : Char} (h : isDigit c = true) : isBlank c = false := by
  have hc : 0x30 ≤ c.toNat ∧ c.toNat ≤ 0x39 := by
    simpa [isDigit, Char.le_def, UInt32.le_iff_toNat_le] using h
  simp only [isBlank, Bool.or_eq_false_iff, Bool.and_eq_false_iff, decide_eq_false_iff_not,
    beq_eq_false_iff_ne]
  omega

theorem trimStart_digits_append {ds s : List Char} (hds : ∀ c ∈ ds, isDigit c = true)
    (hne : ds ≠ []) : trimStart (ds ++ s) = ds ++ s := by
  obtain ⟨c, cs, rfl⟩ := List.exists_cons_of_ne_nil hne
  exact trimStart_cons (not_isBlank_of_isDigit (hds c List.mem_cons_self))

/-! ## The value of digits -/

theorem digitsVal_eq (s : List Char) : digitsVal s = Nat.ofDigitChars 10 s 0 := rfl

theorem digitsVal_append_zeros (s : List Char) (k : Nat) :
    digitsVal (s ++ List.replicate k '0') = 10 ^ k * digitsVal s := by
  rw [digitsVal_eq, Nat.ofDigitChars_append, Nat.ofDigitChars_replicate_zero, digitsVal_eq]

/-! ## Padding -/

variable {width n : Nat}

theorem paddedDigits_eq :
    paddedDigits width n =
      List.replicate (width - (Nat.toDigits 10 n).length) '0' ++ Nat.toDigits 10 n :=
  rfl

theorem isDigit_of_mem_paddedDigits : ∀ c ∈ paddedDigits width n, isDigit c = true := by
  intro c hc
  rcases List.mem_append.mp (paddedDigits_eq ▸ hc) with hc | hc
  · rw [List.eq_of_mem_replicate hc]
    rfl
  · exact Nat.isDigit_of_mem_toDigits (by decide) (by decide) hc

theorem paddedDigits_ne_nil : paddedDigits width n ≠ [] := by
  rw [paddedDigits_eq]
  exact List.append_ne_nil_of_right_ne_nil _ Nat.toDigits_ne_nil

theorem paddedDigits_append_ne_cons {c : Char} {s t : List Char} (hc : isDigit c = false) :
    paddedDigits width n ++ s ≠ c :: t := by
  intro h
  obtain ⟨d, ds, hd⟩ := List.exists_cons_of_ne_nil (@paddedDigits_ne_nil width n)
  rw [hd, List.cons_append, List.cons.injEq] at h
  have hdigit : isDigit d = true := isDigit_of_mem_paddedDigits d (hd ▸ List.mem_cons_self)
  rw [h.1, hc] at hdigit
  cases hdigit

theorem digitsVal_paddedDigits : digitsVal (paddedDigits width n) = n := by
  rw [digitsVal_eq, paddedDigits_eq, Nat.ofDigitChars_append, Nat.ofDigitChars_replicate_zero,
    Nat.mul_zero, Nat.ofDigitChars_ten_toDigits]

theorem trimStart_paddedDigits_append {s : List Char} :
    trimStart (paddedDigits width n ++ s) = paddedDigits width n ++ s :=
  trimStart_digits_append isDigit_of_mem_paddedDigits paddedDigits_ne_nil

theorem length_paddedDigits (hw : 0 < width) (hn : n < 10 ^ width) :
    (paddedDigits width n).length = width := by
  have hlen : (Nat.toDigits 10 n).length ≤ width :=
    (Nat.length_toDigits_le_iff (by decide) hw).mpr hn
  rw [paddedDigits_eq, List.length_append, List.length_replicate]
  omega

end Portal.Text

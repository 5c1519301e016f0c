import Mathlib.Data.Int.Log
import Mathlib.Data.Rat.Floor
import Portal.Number.Binary64
import Portal.Proofs.Number.Rounding

/-!
# Rounding to numbers of 53 binary digits

The rounded number is one of 53 digits, and none of them is nearer. So rounding keeps the order and all
numbers that are short enough, and a number that is not too small changes by a `2 ^ 53`-th part at most.
-/

namespace Portal.Number

/-- A number of 53 binary digits or less, not counting the zeros after them. -/
def IsShort (x : Rat) : Prop :=
  ∃ (m : Nat) (e : Int), m ≤ 2 ^ 53 ∧ -1074 ≤ e ∧ x = m * 2 ^ e

/-- A short number that is even in its last digit, so that it needs one digit less. -/
def HasEvenEnd (x : Rat) : Prop :=
  ∃ (m : Nat) (e : Int), m ≤ 2 ^ 52 ∧ -1073 ≤ e ∧ x = m * 2 ^ e

/-- No double is nearer to `x`, and one whose last digit is odd is as near as no other. -/
structure IsNearestDouble (x y : Rat) : Prop where
  finite : ∃ d : Binary64, d.value = y
  closest : ∀ z : Binary64, |x - y| ≤ |x - z.value|
  even : ∀ z : Binary64, z.value ≠ y → |x - y| = |x - z.value| → HasEvenEnd y

/-! ## The place of the last digit -/

theorem two_zpow_pos (e : Int) : (0 : Rat) < 2 ^ e :=
  zpow_pos two_pos e

theorem two_zpow_log2_le {n : Nat} (hn : n ≠ 0) : (2 : Rat) ^ (n.log2 : Int) ≤ n := by
  rw [zpow_natCast]
  exact_mod_cast Nat.log2_self_le hn

theorem lt_two_zpow_log2 (n : Nat) : (n : Rat) < 2 ^ (n.log2 + 1 : Int) := by
  have h : n < 2 ^ (n.log2 + 1) := Nat.lt_log2_self
  exact_mod_cast h

theorem log2_eq {x : Rat} (hx : 0 < x) : log2 x = Int.log 2 x := by
  -- The lengths of numerator and denominator miss the place by one at most.
  have hnum : x.num.natAbs ≠ 0 := by
    rw [ne_eq, Int.natAbs_eq_zero, Rat.num_eq_zero]
    exact hx.ne'
  have hden : (0 : Rat) < x.den := by exact_mod_cast x.den_pos
  have hfraction : x = x.num.natAbs / x.den := by
    rw [Nat.cast_natAbs, abs_of_nonneg (Rat.num_nonneg.mpr hx.le), Rat.num_div_den]
  have hlow : (2 : Rat) ^ ((x.num.natAbs.log2 : Int) - x.den.log2 - 1) ≤ x := by
    rw [sub_sub, zpow_sub₀ two_ne_zero]
    conv_rhs => rw [hfraction]
    exact div_le_div₀ (Nat.cast_nonneg _) (two_zpow_log2_le hnum) hden (lt_two_zpow_log2 x.den).le
  have hhigh : x < (2 : Rat) ^ ((x.num.natAbs.log2 : Int) - x.den.log2 + 1) := by
    rw [sub_add_eq_add_sub, zpow_sub₀ two_ne_zero]
    conv_lhs => rw [hfraction]
    exact div_lt_div₀ (lt_two_zpow_log2 _) (two_zpow_log2_le x.den_pos.ne') (two_zpow_pos _).le
      (two_zpow_pos _)
  have hleast := (Int.zpow_le_iff_le_log one_lt_two hx).mp hlow
  have hmost := (Int.lt_zpow_iff_log_lt one_lt_two hx).mp hhigh
  unfold log2
  dsimp only
  split
  · next h =>
    have := (Int.zpow_le_iff_le_log one_lt_two hx).mp h
    omega
  · next h =>
    have := (Int.lt_zpow_iff_log_lt one_lt_two hx).mp (not_le.mp h)
    omega

def lastPlace (x : Rat) : Int :=
  max (log2 x) (-1022) - 52

theorem ulp_eq (x : Rat) : ulp x = 2 ^ lastPlace x := rfl

theorem ulp_pos (x : Rat) : 0 < ulp x :=
  two_zpow_pos _

theorem le_lastPlace (x : Rat) : -1074 ≤ lastPlace x := by
  unfold lastPlace
  omega

theorem lt_of_lastPlace {x : Rat} (hx : 0 < x) : x < 2 ^ 53 * ulp x := by
  have hlog : x < 2 ^ (log2 x + 1) := by
    rw [log2_eq hx]
    exact Int.lt_zpow_succ_log_self one_lt_two x
  have hplace : (2 : Rat) ^ 53 * ulp x = 2 ^ (53 + lastPlace x) := by
    rw [ulp_eq, zpow_add₀ two_ne_zero]
    rfl
  rw [hplace]
  refine hlog.trans_le (zpow_le_zpow_right₀ one_le_two ?_)
  unfold lastPlace
  omega

theorem le_of_lastPlace {x : Rat} (hx : 0 < x) (hnormal : -1022 ≤ log2 x) :
    2 ^ 52 * ulp x ≤ x := by
  have hlog : (2 : Rat) ^ log2 x ≤ x := by
    rw [log2_eq hx]
    exact Int.zpow_log_le_self one_lt_two hx
  have hplace : (2 : Rat) ^ 52 * ulp x = 2 ^ (52 + lastPlace x) := by
    rw [ulp_eq, zpow_add₀ two_ne_zero]
    rfl
  rwa [hplace, lastPlace, max_eq_left hnormal, add_sub_cancel]

/-! ## Short numbers -/

theorem isShort_natCast {n : Nat} (h : n ≤ 2 ^ 53) : IsShort n :=
  ⟨n, 0, h, by decide, by simp⟩

theorem isShort_two_zpow {e : Int} (h : -1074 ≤ e) : IsShort (2 ^ e) :=
  ⟨1, e, by decide, h, by simp⟩

theorem IsShort.nonneg {x : Rat} (h : IsShort x) : 0 ≤ x := by
  obtain ⟨m, e, -, -, rfl⟩ := h
  exact mul_nonneg m.cast_nonneg (two_zpow_pos e).le

theorem le_of_digits {m : Nat} {e f : Int} (hm : m ≤ 2 ^ 53) (he : e ≤ f) :
    (m : Rat) * 2 ^ e ≤ 2 ^ 53 * 2 ^ f := by
  have hdigits : (m : Rat) ≤ 2 ^ 53 := by exact_mod_cast hm
  exact mul_le_mul hdigits (zpow_le_zpow_right₀ one_le_two he) (two_zpow_pos e).le (by norm_num)

theorem nearest_zero : nearest 0 = 0 := by
  have h := halfEven_intCast 0
  rw [Int.cast_zero] at h
  rw [nearest, zero_div, h, Int.cast_zero, zero_mul]

theorem exists_digits {x : Rat} (hx : 0 < x) :
    ∃ m : Nat, m ≤ 2 ^ 53 ∧ halfEven (x / ulp x) = m := by
  have hleast : 0 ≤ halfEven (x / ulp x) :=
    le_halfEven (by simpa using (div_pos hx (ulp_pos x)).le)
  have hmost : halfEven (x / ulp x) ≤ 2 ^ 53 := by
    apply halfEven_le
    rw [div_le_iff₀ (ulp_pos x)]
    exact_mod_cast (lt_of_lastPlace hx).le
  exact ⟨(halfEven (x / ulp x)).toNat, by omega, (Int.toNat_of_nonneg hleast).symm⟩

theorem isShort_nearest {x : Rat} (hx : 0 ≤ x) : IsShort (nearest x) := by
  rcases hx.eq_or_lt with rfl | hpos
  · rw [nearest_zero]
    exact_mod_cast isShort_natCast (Nat.zero_le _)
  · obtain ⟨m, hm, hdigits⟩ := exists_digits hpos
    exact ⟨m, lastPlace x, hm, le_lastPlace x, by rw [nearest, hdigits, Int.cast_natCast, ulp_eq]⟩

theorem nearest_nonneg {x : Rat} (hx : 0 ≤ x) : 0 ≤ nearest x :=
  (isShort_nearest hx).nonneg

/-! ## What is nearest -/

theorem abs_sub_mul_ulp (x : Rat) (k : Int) : |x - k * ulp x| = |x / ulp x - k| * ulp x := by
  have hulp := ulp_pos x
  rw [← abs_of_pos hulp, ← abs_mul, abs_of_pos hulp, sub_mul, div_mul_cancel₀ x hulp.ne']

theorem abs_sub_nearest_le_multiple (x : Rat) (k : Int) : |x - nearest x| ≤ |x - k * ulp x| := by
  rw [nearest, abs_sub_mul_ulp, abs_sub_mul_ulp]
  exact mul_le_mul_of_nonneg_right (abs_sub_halfEven_le _ k) (ulp_pos x).le

theorem abs_sub_nearest_le_half (x : Rat) : |x - nearest x| ≤ ulp x / 2 := by
  rw [nearest, abs_sub_mul_ulp]
  have h := mul_le_mul_of_nonneg_right (abs_sub_halfEven_le_half (x / ulp x)) (ulp_pos x).le
  linarith

/-- A short number is a multiple of the last place of `x`, or it lies below all numbers that have
their 53 digits there. -/
theorem IsShort.multiple_or_below {x y : Rat} (hx : 0 < x) (hy : IsShort y) :
    (∃ k : Int, y = k * ulp x) ∨ y ≤ 2 ^ 52 * ulp x ∧ 2 ^ 52 * ulp x ≤ x := by
  obtain ⟨m, e, hm, he, rfl⟩ := hy
  rcases le_or_gt (lastPlace x) e with hplace | hplace
  · left
    have hsplit : (2 : Rat) ^ e = 2 ^ (e - lastPlace x).toNat * 2 ^ lastPlace x := by
      rw [← zpow_natCast, Int.toNat_of_nonneg (sub_nonneg.mpr hplace), ← zpow_add₀ two_ne_zero,
        sub_add_cancel]
    refine ⟨m * 2 ^ (e - lastPlace x).toNat, ?_⟩
    rw [hsplit, ulp_eq]
    push_cast
    ring
  · right
    refine ⟨?_, le_of_lastPlace hx (by unfold lastPlace at hplace; omega)⟩
    have hle := le_of_digits hm (Int.le_sub_one_of_lt hplace)
    rw [zpow_sub_one₀ two_ne_zero, ← ulp_eq] at hle
    linarith

theorem abs_sub_nearest_le {x y : Rat} (hx : 0 ≤ x) (hy : IsShort y) :
    |x - nearest x| ≤ |x - y| := by
  rcases hx.eq_or_lt with rfl | hpos
  · rw [nearest_zero, sub_zero, abs_zero]
    exact abs_nonneg _
  rcases hy.multiple_or_below hpos with ⟨k, rfl⟩ | ⟨hbelow, hlow⟩
  · exact abs_sub_nearest_le_multiple x k
  · have hnear := abs_sub_nearest_le_multiple x (2 ^ 52)
    rw [Int.cast_pow, Int.cast_ofNat, abs_of_nonneg (sub_nonneg.mpr hlow)] at hnear
    rw [abs_of_nonneg (sub_nonneg.mpr (hbelow.trans hlow))]
    linarith

theorem hasEvenEnd_of_tie {x y : Rat} (hx : 0 ≤ x) (hy : IsShort y) (hne : y ≠ nearest x)
    (htie : |x - nearest x| = |x - y|) : HasEvenEnd (nearest x) := by
  rcases hx.eq_or_lt with rfl | hpos
  · rw [nearest_zero]
    exact ⟨0, 0, Nat.zero_le _, by decide, by simp⟩
  -- As near as the rounded number, `y` cannot lie below.
  obtain ⟨k, rfl⟩ : ∃ k : Int, y = k * ulp x := by
    rcases hy.multiple_or_below hpos with hmultiple | ⟨hbelow, hlow⟩
    · exact hmultiple
    · have hnear := abs_sub_nearest_le_multiple x (2 ^ 52)
      rw [htie, Int.cast_pow, Int.cast_ofNat, abs_of_nonneg (sub_nonneg.mpr hlow),
        abs_of_nonneg (sub_nonneg.mpr (hbelow.trans hlow))] at hnear
      exact ⟨2 ^ 52, by rw [Int.cast_pow, Int.cast_ofNat]; linarith⟩
  have heven : halfEven (x / ulp x) % 2 = 0 := by
    apply even_of_tie (k := k)
    · rintro rfl
      exact hne rfl
    · rw [nearest, abs_sub_mul_ulp, abs_sub_mul_ulp] at htie
      exact mul_right_cancel₀ (ulp_pos x).ne' htie
  obtain ⟨m, hm, hdigits⟩ := exists_digits hpos
  obtain ⟨k, rfl⟩ : ∃ k, m = 2 * k := ⟨m / 2, by omega⟩
  refine ⟨k, lastPlace x + 1, by omega, by linarith [le_lastPlace x], ?_⟩
  rw [nearest, hdigits, zpow_add_one₀ two_ne_zero, ← ulp_eq]
  push_cast
  ring

theorem nearest_eq_self {x : Rat} (hx : IsShort x) : nearest x = x := by
  have h := abs_sub_nearest_le hx.nonneg hx
  rw [sub_self, abs_zero, abs_nonpos_iff, sub_eq_zero] at h
  exact h.symm

theorem nearest_mono {x y : Rat} (hx : 0 ≤ x) (h : x ≤ y) : nearest x ≤ nearest y := by
  rcases h.eq_or_lt with rfl | hlt
  · exact le_rfl
  · have hy := hx.trans h
    exact le_of_nearest hlt (abs_sub_nearest_le hx (isShort_nearest hy))
      (abs_sub_nearest_le hy (isShort_nearest hx))

theorem nearest_le {x y : Rat} (hx : 0 ≤ x) (hy : IsShort y) (h : x ≤ y) : nearest x ≤ y :=
  (nearest_mono hx h).trans_eq (nearest_eq_self hy)

theorem le_nearest {x y : Rat} (hy : IsShort y) (h : y ≤ x) : y ≤ nearest x :=
  (nearest_eq_self hy).symm.trans_le (nearest_mono hy.nonneg h)

theorem le_nearest_of_normal {x : Rat} (hx : x = 0 ∨ 2 ^ (-1022 : Int) ≤ x) :
    (1 - 1 / 2 ^ 53) * x ≤ nearest x := by
  rcases hx with rfl | hx
  · rw [nearest_zero, mul_zero]
  · have hpos : 0 < x := (two_zpow_pos _).trans_le hx
    have hlog : -1022 ≤ log2 x := by
      rw [log2_eq hpos]
      exact (Int.zpow_le_iff_le_log one_lt_two hpos).mp hx
    have hulp := le_of_lastPlace hpos hlog
    have hhalf := (abs_le.mp (abs_sub_nearest_le_half x)).2
    linarith

/-! ## Large numbers -/

theorem IsShort.exists_nat {x : Rat} (h : IsShort x) (hx : 2 ^ 52 < x) : ∃ n : Nat, x = n := by
  obtain ⟨m, e, hm, -, rfl⟩ := h
  have he : 0 ≤ e := by
    by_contra hneg
    -- With a digit behind the point, there are no more than 52 before it.
    have hle := le_of_digits hm (show e ≤ -1 by omega)
    rw [zpow_neg_one] at hle
    linarith
  obtain ⟨k, rfl⟩ := Int.eq_ofNat_of_zero_le he
  exact ⟨m * 2 ^ k, by push_cast; rfl⟩

theorem IsShort.exists_even {x : Rat} (h : IsShort x) (hx : 2 ^ 53 ≤ x) : ∃ n : Nat, x = 2 * n := by
  obtain ⟨m, e, hm, -, rfl⟩ := h
  rcases le_or_gt e 0 with he | he
  · have hle := le_of_digits hm he
    rw [zpow_zero, mul_one] at hle
    exact ⟨2 ^ 52, by rw [le_antisymm hle hx]; norm_num⟩
  · obtain ⟨k, hk⟩ := Int.eq_ofNat_of_zero_le (Int.sub_nonneg_of_le he)
    refine ⟨m * 2 ^ k, ?_⟩
    rw [show e = k + 1 by omega, zpow_add_one₀ two_ne_zero, zpow_natCast]
    push_cast
    ring

theorem nearest_add_le {x p : Rat} (hx : IsShort x) (hlarge : 2 ^ 53 ≤ x) (hp : 0 ≤ p)
    (hp1 : p < 1) : nearest (x + p) ≤ x := by
  have hsum : 0 ≤ x + p := add_nonneg hx.nonneg hp
  have hnear := abs_sub_nearest_le hsum hx
  rw [add_sub_cancel_left, abs_of_nonneg hp] at hnear
  by_contra hlt
  rw [not_le] at hlt
  obtain ⟨k, hk⟩ := hx.exists_even hlarge
  obtain ⟨n, hn⟩ := (isShort_nearest hsum).exists_even (hlarge.trans hlt.le)
  -- The next number is two further on, and so more than twice as far as `p` goes.
  have hstep : (k : Rat) + 1 ≤ n := by
    have hkn : (k : Rat) < n := by linarith
    exact_mod_cast hkn
  have habs := neg_le_of_abs_le hnear
  linarith

/-! ## Doubles -/

theorem Binary64.isShort_magnitude (z : Binary64) : IsShort z.magnitude := by
  rw [← z.is_double.2.2]
  exact isShort_nearest z.is_double.1

theorem Binary64.value_eq_magnitude (z : Binary64) (h : 0 ≤ z.value) : z.value = z.magnitude := by
  unfold value at h ⊢
  split at h
  · next hnegative =>
    rw [if_pos hnegative]
    linarith [z.is_double.1]
  · next hpositive => rw [if_neg hpositive]

theorem Binary64.abs_sub_magnitude_le (z : Binary64) {x : Rat} (hx : 0 ≤ x) :
    |x - z.magnitude| ≤ |x - z.value| := by
  unfold value
  split
  · -- A negative one is farther away than its magnitude.
    have hz := z.is_double.1
    rw [sub_neg_eq_add, abs_of_nonneg (add_nonneg hx hz), abs_le]
    constructor <;> linarith
  · exact le_rfl

theorem isNearestDouble_nearest {x : Rat} (hx : 0 ≤ x) (hlimit : nearest x < limit) :
    IsNearestDouble x (nearest x) where
  finite := ⟨⟨false, nearest x, nearest_nonneg hx, hlimit, nearest_eq_self (isShort_nearest hx)⟩, rfl⟩
  closest z := (abs_sub_nearest_le hx z.isShort_magnitude).trans (z.abs_sub_magnitude_le hx)
  even z hz htie := by
    -- Zero is nearer than all negative ones.
    have hzero := abs_sub_nearest_le hx (isShort_natCast (Nat.zero_le _))
    rw [Nat.cast_zero, sub_zero, abs_of_nonneg hx, htie, abs_le] at hzero
    have hvalue := z.value_eq_magnitude (by linarith)
    rw [hvalue] at hz htie
    exact hasEvenEnd_of_tie hx z.isShort_magnitude hz htie

end Portal.Number

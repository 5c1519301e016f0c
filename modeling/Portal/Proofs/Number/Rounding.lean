import Mathlib.Algebra.Order.Field.Rat
import Mathlib.Tactic.Linarith
import Mathlib.Tactic.NormNum
import Portal.Number.Binary64

/-!
# Rounding to the nearest integer
-/

namespace Portal.Number

/-- No integer is nearer to `x`, and an odd one is as near as no other. -/
structure IsNearestInt (x : Rat) (n : Int) : Prop where
  closest : ∀ k : Int, |x - n| ≤ |x - k|
  even : ∀ k : Int, k ≠ n → |x - n| = |x - k| → n % 2 = 0

theorem halfEven_cases (x : Rat) :
    ∃ k : Int, (k ≤ x ∧ x < k + 1 / 2 ∧ halfEven x = k) ∨
      (k + 1 / 2 < x ∧ x < k + 1 ∧ halfEven x = k + 1) ∨
      (x = k + 1 / 2 ∧ halfEven x = k + k % 2) := by
  have hlow : (x.floor : Rat) ≤ x := Rat.floor_le x
  have hhigh : x < x.floor + 1 := by exact_mod_cast Rat.lt_floor_add_one x
  refine ⟨x.floor, ?_⟩
  unfold halfEven
  dsimp only
  split_ifs with hbefore hafter
  · exact Or.inl ⟨hlow, by linarith, rfl⟩
  · exact Or.inr (Or.inl ⟨by linarith, hhigh, rfl⟩)
  · exact Or.inr (Or.inr ⟨by linarith, rfl⟩)

theorem lt_halfEven_iff {n : Int} (hn : n % 2 = 0) (x : Rat) :
    n < halfEven x ↔ n + 1 / 2 < x := by
  obtain ⟨k, ⟨hlow, hhigh, hx⟩ | ⟨hlow, hhigh, hx⟩ | ⟨rfl, hx⟩⟩ := halfEven_cases x
  · rw [hx]
    constructor
    · intro h
      have hk : (n : Rat) + 1 ≤ k := by exact_mod_cast h
      linarith
    · intro h
      have hk : (n : Rat) < k := by linarith
      exact_mod_cast hk
  · rw [hx]
    constructor
    · intro h
      have hk : (n : Rat) ≤ k := by exact_mod_cast Int.lt_add_one_iff.mp h
      linarith
    · intro h
      have hk : (n : Rat) < k + 1 := by linarith
      exact_mod_cast hk
  · rw [hx, add_lt_add_iff_right, Int.cast_lt]
    omega

/-! ## The nearest integer -/

theorem abs_sub_halfEven_le_half (x : Rat) : |x - halfEven x| ≤ 1 / 2 := by
  rw [abs_le]
  obtain ⟨k, ⟨hlow, hhigh, hx⟩ | ⟨hlow, hhigh, hx⟩ | ⟨rfl, hx⟩⟩ := halfEven_cases x
  · rw [hx]
    constructor <;> linarith
  · rw [hx]
    push_cast
    constructor <;> linarith
  · have hparity : k % 2 = 0 ∨ k % 2 = 1 := by omega
    rw [hx]
    rcases hparity with hk | hk <;> rw [hk] <;> push_cast <;> constructor <;> linarith

theorem abs_sub_halfEven_le (x : Rat) (k : Int) : |x - halfEven x| ≤ |x - k| := by
  have hhalf := abs_sub_halfEven_le_half x
  by_cases hk : halfEven x = k
  · rw [hk]
  · -- Any other integer is at least one away from it.
    have hone : (1 : Rat) ≤ |(halfEven x : Rat) - k| := by
      exact_mod_cast Int.one_le_abs (sub_ne_zero.mpr hk)
    have htriangle := abs_sub_le (halfEven x : Rat) x k
    rw [abs_sub_comm (halfEven x : Rat) x] at htriangle
    linarith

theorem even_of_tie {x : Rat} {k : Int} (hk : k ≠ halfEven x) (htie : |x - halfEven x| = |x - k|) :
    halfEven x % 2 = 0 := by
  have hone : (1 : Rat) ≤ |(halfEven x : Rat) - k| := by
    exact_mod_cast Int.one_le_abs (sub_ne_zero.mpr hk.symm)
  have htriangle := abs_sub_le (halfEven x : Rat) x k
  rw [abs_sub_comm (halfEven x : Rat) x, ← htie] at htriangle
  -- So `x` is half a step away, and that is the middle.
  have hhalf : 1 / 2 ≤ |x - halfEven x| := by linarith
  obtain ⟨n, ⟨hlow, hhigh, hx⟩ | ⟨hlow, hhigh, hx⟩ | ⟨-, hx⟩⟩ := halfEven_cases x
  · rw [hx, abs_of_nonneg (sub_nonneg.mpr hlow)] at hhalf
    linarith
  · rw [hx, Int.cast_add, Int.cast_one, abs_of_neg (sub_neg.mpr hhigh)] at hhalf
    linarith
  · rw [hx]
    omega

theorem isNearestInt_halfEven (x : Rat) : IsNearestInt x (halfEven x) where
  closest := abs_sub_halfEven_le x
  even _ hk htie := even_of_tie hk htie

/-- Rounding to what is nearest keeps the order, whatever there is to round to. -/
theorem le_of_nearest {x y a b : Rat} (hxy : x < y) (ha : |x - a| ≤ |x - b|)
    (hb : |y - b| ≤ |y - a|) : a ≤ b := by
  by_contra hlt
  -- The middle of `a` and `b` would be at most `x` and at least `y`.
  have hx : a + b ≤ 2 * x := by
    rcases abs_cases (x - a) with h | h <;> rcases abs_cases (x - b) with h' | h' <;> linarith
  have hy : 2 * y ≤ a + b := by
    rcases abs_cases (y - a) with h | h <;> rcases abs_cases (y - b) with h' | h' <;> linarith
  linarith

theorem halfEven_mono {x y : Rat} (h : x ≤ y) : halfEven x ≤ halfEven y := by
  rcases h.eq_or_lt with rfl | hlt
  · exact le_rfl
  · exact_mod_cast le_of_nearest hlt (abs_sub_halfEven_le x _) (abs_sub_halfEven_le y _)

@[simp]
theorem halfEven_intCast (k : Int) : halfEven k = k := by
  have h := abs_sub_halfEven_le k k
  rw [sub_self, abs_zero, abs_nonpos_iff, sub_eq_zero] at h
  exact_mod_cast h.symm

theorem halfEven_le {x : Rat} {k : Int} (h : x ≤ k) : halfEven x ≤ k :=
  (halfEven_mono h).trans_eq (halfEven_intCast k)

theorem le_halfEven {x : Rat} {k : Int} (h : k ≤ x) : k ≤ halfEven x :=
  (halfEven_intCast k).symm.trans_le (halfEven_mono h)

end Portal.Number

import Mathlib.Logic.Function.Iterate
import Portal.Proofs.Time.Seconds
import Portal.Proofs.Wait.Intervals

/-!
# How pauses grow

A pause becomes half as long again, up to what rounding takes away, until it is the longest one allowed,
and then it stays that long. The doubles on the way are all finite. What is too long to be a duration
counts as the longest one.
-/

namespace Portal.ExportWait

/-- Half as long again, in seconds. -/
def grown (d : Duration) : Rat :=
  Number.nearest (d.toSeconds * (3 / 2))

/-- The exact value of each step that is taken with doubles, and what it is rounded to. -/
def roundings (d : Duration) : List (Rat × Rat) :=
  [(d.wholeSeconds, d.roundedWhole), (d.subsecNanos / 1000000000, d.roundedPart),
    (d.roundedWhole + d.roundedPart, d.toSeconds), (d.toSeconds * (3 / 2), grown d)]

/-- What a rule for the pause after a pause has to keep, where `longest` is the longest one allowed. -/
structure GrowsToLongest (next : Duration → Duration → Duration) : Prop where
  least : ∀ d longest, min longest (max (.ofSeconds 1) d) ≤ next d longest
  most : ∀ d longest, next d longest ≤ longest
  mono : ∀ a b longest, a ≤ b → next a longest ≤ next b longest
  rises : ∀ start longest m n, m ≤ n →
    (next · longest)^[m + 1] start ≤ (next · longest)^[n + 1] start
  arrives : ∀ start longest n, 120 ≤ n → (next · longest)^[n] start = longest

/-- No step overflows: each one gives the nearest double, and only the last of these may be too long
for a duration. -/
structure IsComputed (d : Duration) : Prop where
  doubles : ∀ r ∈ roundings d, Number.IsNearestDouble r.1 r.2
  fits : grown d < 2 ^ 64 → ∃ g : Duration, Number.IsNearestInt (grown d * 1000000000) g.nanos ∧
    ∀ longest, nextInterval d longest = min (max g (.ofSeconds 1)) longest
  too_long : 2 ^ 64 ≤ grown d → ∀ longest, nextInterval d longest = longest

/-! ## One step -/

theorem half_more_nonneg (d : Duration) : 0 ≤ d.toSeconds * (3 / 2) :=
  mul_nonneg d.isShort_toSeconds.nonneg (by norm_num)

theorem isShort_grown (d : Duration) : Number.IsShort (grown d) :=
  Number.isShort_nearest (half_more_nonneg d)

theorem grown_mono {a b : Duration} (h : a ≤ b) : grown a ≤ grown b := by
  apply Number.nearest_mono (half_more_nonneg a)
  exact mul_le_mul_of_nonneg_right (Duration.toSeconds_mono h) (by norm_num)

theorem grown_le (d : Duration) : grown d ≤ 2 ^ 66 := by
  apply Number.nearest_le (half_more_nonneg d) (Number.isShort_two_zpow (e := 66) (by decide))
  have h := d.toSeconds_le
  norm_num at h ⊢
  linarith

variable {d : Duration} (longest : Duration)

theorem nextInterval_of_fits {g : Duration} (h : Duration.ofSeconds? (grown d) = some g) :
    nextInterval d longest = min (max g (.ofSeconds 1)) longest := by
  change min (max ((Duration.ofSeconds? (grown d)).getD longest) (.ofSeconds 1)) longest = _
  rw [h, Option.getD_some]

theorem nextInterval_of_too_long (h : Duration.ofSeconds? (grown d) = none) :
    nextInterval d longest = longest := by
  change min (max ((Duration.ofSeconds? (grown d)).getD longest) (.ofSeconds 1)) longest = _
  rw [h, Option.getD_none]
  apply Duration.eq_of_nanos
  simp

theorem le_nanos_of_grown (hd : 1000000000 ≤ d.nanos) {g : Duration}
    (h : Duration.ofSeconds? (grown d) = some g) : 149 * d.nanos ≤ 100 * g.nanos := by
  -- Rounding takes less than the hundredth part away.
  have hone : (1000000000 : Rat) ≤ d.nanos := by exact_mod_cast hd
  have hseconds := Duration.le_toSeconds hd
  have hfirst : 1 ≤ d.toSeconds * (3 / 2) := by linarith
  have hgrown := Number.le_nearest_of_normal (x := d.toSeconds * (3 / 2))
    (Or.inr (le_trans (zpow_le_one_of_nonpos₀ one_le_two (by decide)) hfirst))
  have hnanos := Duration.sub_half_le_nanos (isShort_grown d).nonneg h
  have hrat : (149 : Rat) * d.nanos ≤ 100 * g.nanos := by
    unfold grown at hnanos
    linarith
  exact_mod_cast hrat

/-- A pause of a second or more becomes the longest one, or grows by almost a half. -/
theorem nextInterval_grows (hd : 1000000000 ≤ d.nanos) :
    nextInterval d longest = longest ∨ 149 * d.nanos ≤ 100 * (nextInterval d longest).nanos := by
  cases h : Duration.ofSeconds? (grown d) with
  | none => exact Or.inl (nextInterval_of_too_long longest h)
  | some g =>
    have hg := le_nanos_of_grown hd h
    have hnext := nextInterval_of_fits longest h
    rcases le_total longest.nanos (max g.nanos 1000000000) with hcap | hcap
    · left
      apply Duration.eq_of_nanos
      rw [hnext]
      simpa using hcap
    · right
      rw [hnext, Duration.nanos_min, Duration.nanos_max, Duration.nanos_second]
      omega

theorem le_nextInterval (d longest : Duration) :
    min longest (max (.ofSeconds 1) d) ≤ nextInterval d longest := by
  have hshortest := shortest_le_nextInterval d longest
  simp only [shortest, Duration.le_iff_nanos, Duration.nanos_min, Duration.nanos_max,
    Duration.nanos_second] at hshortest ⊢
  rcases le_or_gt 1000000000 d.nanos with hd | hd
  · rcases nextInterval_grows longest hd with hnext | hnext
    · rw [hnext]
      omega
    · omega
  · omega

theorem nextInterval_mono {a b : Duration} (h : a ≤ b) :
    nextInterval a longest ≤ nextInterval b longest := by
  have hgrown := grown_mono h
  cases hb : Duration.ofSeconds? (grown b) with
  | none =>
    rw [nextInterval_of_too_long longest hb]
    exact nextInterval_le a longest
  | some gb =>
    cases ha : Duration.ofSeconds? (grown a) with
    | none =>
      have hlong := (Duration.ofSeconds?_eq_none_iff (isShort_grown a)).mp ha
      rw [(Duration.ofSeconds?_eq_none_iff (isShort_grown b)).mpr (hlong.trans hgrown)] at hb
      cases hb
    | some ga =>
      have hg := Duration.ofSeconds?_mono (isShort_grown a).nonneg hgrown ha hb
      rw [nextInterval_of_fits longest ha, nextInterval_of_fits longest hb]
      simp only [Duration.le_iff_nanos, Duration.nanos_min, Duration.nanos_max] at hg ⊢
      omega

theorem nextInterval_self : nextInterval longest longest = longest := by
  have hle := le_nextInterval longest longest
  have hge := nextInterval_le longest longest
  simp only [Duration.le_iff_nanos, Duration.nanos_min, Duration.nanos_max] at hle hge
  apply Duration.eq_of_nanos
  omega

/-! ## Many steps -/

variable (start : Duration)

theorem le_nextInterval_after (n : Nat) :
    (nextInterval · longest)^[n + 1] start ≤ (nextInterval · longest)^[n + 2] start := by
  rw [Function.iterate_succ_apply' _ (n + 1), Function.iterate_succ_apply' _ n]
  have hle := le_nextInterval (nextInterval ((nextInterval · longest)^[n] start) longest) longest
  have hmost := nextInterval_le ((nextInterval · longest)^[n] start) longest
  simp only [Duration.le_iff_nanos, Duration.nanos_min, Duration.nanos_max] at hle hmost ⊢
  omega

theorem grows_after (n : Nat) :
    (nextInterval · longest)^[n + 1] start = longest ∨
      1000000000 * 149 ^ n ≤ 100 ^ n * ((nextInterval · longest)^[n + 1] start).nanos := by
  induction n with
  | zero =>
    have hshortest := shortest_le_nextInterval start longest
    have hmost := nextInterval_le start longest
    simp only [shortest, Duration.le_iff_nanos, Duration.nanos_min, Duration.nanos_second]
      at hshortest hmost
    rcases le_or_gt 1000000000 (nextInterval start longest).nanos with h | h
    · exact Or.inr (by simpa using h)
    · exact Or.inl (Duration.eq_of_nanos (by simp; omega))
  | succ n ih =>
    rw [Function.iterate_succ_apply']
    rcases ih with hlongest | hgrown
    · exact Or.inl (by rw [hlongest, nextInterval_self])
    · have hpower : 100 ^ n * 1000000000 ≤ 1000000000 * 149 ^ n := by
        rw [Nat.mul_comm]
        exact Nat.mul_le_mul_left _ (Nat.pow_le_pow_left (by decide) n)
      have hsecond := Nat.le_of_mul_le_mul_left (hpower.trans hgrown) (Nat.pow_pos (by decide))
      rcases nextInterval_grows longest hsecond with hnext | hnext
      · exact Or.inl hnext
      · right
        calc 1000000000 * 149 ^ (n + 1)
            = 149 * (1000000000 * 149 ^ n) := by ring
          _ ≤ 149 * (100 ^ n * ((nextInterval · longest)^[n + 1] start).nanos) :=
              Nat.mul_le_mul_left _ hgrown
          _ = 100 ^ n * (149 * ((nextInterval · longest)^[n + 1] start).nanos) := by ring
          _ ≤ 100 ^ n * (100 * _) := Nat.mul_le_mul_left _ hnext
          _ = 100 ^ (n + 1) * _ := by ring

theorem eq_longest_of_many {n : Nat} (hn : 120 ≤ n) :
    (nextInterval · longest)^[n] start = longest := by
  have harrives : (nextInterval · longest)^[120] start = longest := by
    rcases grows_after longest start 119 with h | h
    · exact h
    · -- No duration is that long.
      have hbound := ((nextInterval · longest)^[119 + 1] start).lt_bound
      omega
  obtain ⟨k, rfl⟩ := Nat.exists_eq_add_of_le hn
  rw [Nat.add_comm, Function.iterate_add_apply, harrives]
  exact Function.iterate_fixed (f := (nextInterval · longest)) (nextInterval_self longest) k

/-! ## Its doubles -/

theorem isComputed (d : Duration) : IsComputed d where
  doubles := by
    have hlimit {x : Rat} (hx : x ≤ 2 ^ 66) : x < Number.limit :=
      hx.trans_lt (by
        rw [Number.limit, ← zpow_natCast]
        exact zpow_lt_zpow_right₀ one_lt_two (by decide))
    have hwhole : d.roundedWhole ≤ 2 ^ 66 := d.roundedWhole_le.trans (by norm_num)
    have hpart : d.roundedPart ≤ 2 ^ 66 := d.roundedPart_lt_one.le.trans (by norm_num)
    have hseconds : d.toSeconds ≤ 2 ^ 66 := d.toSeconds_le.trans (by norm_num)
    simp only [roundings, List.forall_mem_cons, List.not_mem_nil, false_imp_iff, implies_true,
      and_true]
    exact ⟨Number.isNearestDouble_nearest (Nat.cast_nonneg _) (hlimit hwhole),
      Number.isNearestDouble_nearest d.subsec_nonneg (hlimit hpart),
      Number.isNearestDouble_nearest
        (add_nonneg d.isShort_roundedWhole.nonneg d.isShort_roundedPart.nonneg) (hlimit hseconds),
      Number.isNearestDouble_nearest (half_more_nonneg d) (hlimit (grown_le d))⟩
  fits h := by
    obtain ⟨g, hg⟩ := Option.ne_none_iff_exists'.mp
      (mt (Duration.ofSeconds?_eq_none_iff (isShort_grown d)).mp (not_le.mpr h))
    exact ⟨g, Duration.isNearestInt_nanos (isShort_grown d).nonneg hg,
      fun longest => nextInterval_of_fits longest hg⟩
  too_long h longest :=
    nextInterval_of_too_long longest ((Duration.ofSeconds?_eq_none_iff (isShort_grown d)).mpr h)

/-- Pauses grow to the longest one allowed and stay there, from whatever they start with, and no step
of the computation overflows. -/
theorem nextInterval_growsToLongest :
    GrowsToLongest nextInterval ∧ ∀ d, IsComputed d := by
  refine ⟨?_, isComputed⟩
  exact {
    least := le_nextInterval
    most := nextInterval_le
    mono := fun _ _ longest h => nextInterval_mono longest h
    rises := fun start longest m n h => by
      have hmono : Monotone fun k => ((nextInterval · longest)^[k + 1] start).nanos :=
        monotone_nat_of_le_succ fun k => le_nextInterval_after longest start k
      exact hmono h
    arrives := fun start longest _ h => eq_longest_of_many longest start h }

example : nextInterval ⟨2000000001, by decide⟩ (.ofSeconds 30) = ⟨3000000002, by decide⟩ := by
  decide +kernel

end Portal.ExportWait

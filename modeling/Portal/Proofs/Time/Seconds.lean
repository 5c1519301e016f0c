import Portal.Proofs.Number.Nearest
import Portal.Time.Duration

/-!
# Durations as seconds

A duration as a double keeps its order, though the whole seconds and the rest are rounded apart, and it
loses a part of the last digit at each step. A double is a duration again unless it is too long.
-/

namespace Portal.Duration

open Number (nearest IsShort)

/-- The seconds as the doubles that they are added up from. -/
def roundedWhole (d : Duration) : Rat :=
  nearest d.wholeSeconds

def roundedPart (d : Duration) : Rat :=
  nearest (d.subsecNanos / 1000000000)

theorem toSeconds_eq (d : Duration) : d.toSeconds = nearest (d.roundedWhole + d.roundedPart) := rfl

/-! ## The two parts -/

theorem wholeSeconds_lt (d : Duration) : d.wholeSeconds < 2 ^ 64 := by
  have := d.lt_bound
  unfold wholeSeconds
  omega

theorem isShort_roundedWhole (d : Duration) : IsShort d.roundedWhole :=
  Number.isShort_nearest (Nat.cast_nonneg _)

theorem roundedWhole_le (d : Duration) : d.roundedWhole ≤ 2 ^ 64 := by
  apply Number.nearest_le (Nat.cast_nonneg _) (Number.isShort_two_zpow (e := 64) (by decide))
  exact_mod_cast d.wholeSeconds_lt.le

theorem subsec_nonneg (d : Duration) : (0 : Rat) ≤ d.subsecNanos / 1000000000 :=
  div_nonneg (Nat.cast_nonneg _) (by norm_num)

theorem isShort_roundedPart (d : Duration) : IsShort d.roundedPart :=
  Number.isShort_nearest d.subsec_nonneg

theorem roundedPart_lt_one (d : Duration) : d.roundedPart < 1 := by
  -- Nine digits behind the point stay away from one.
  have hshort : IsShort (1 - 2 ^ (-30 : Int)) := ⟨2 ^ 30 - 1, -30, by decide, by decide, by norm_num⟩
  have hdigits : d.subsecNanos ≤ 999999999 := by
    unfold subsecNanos
    omega
  have hcast : (d.subsecNanos : Rat) ≤ 999999999 := by exact_mod_cast hdigits
  have hle : d.roundedPart ≤ 1 - 2 ^ (-30 : Int) := by
    apply Number.nearest_le d.subsec_nonneg hshort
    norm_num
    linarith
  refine hle.trans_lt ?_
  norm_num

theorem isShort_toSeconds (d : Duration) : IsShort d.toSeconds :=
  Number.isShort_nearest (add_nonneg d.isShort_roundedWhole.nonneg d.isShort_roundedPart.nonneg)

theorem toSeconds_le (d : Duration) : d.toSeconds ≤ 2 ^ 65 := by
  apply Number.nearest_le (add_nonneg d.isShort_roundedWhole.nonneg d.isShort_roundedPart.nonneg)
    (Number.isShort_two_zpow (e := 65) (by decide))
  have hwhole := d.roundedWhole_le
  have hpart := d.roundedPart_lt_one
  norm_num at hwhole ⊢
  linarith

/-! ## Their order -/

theorem roundedWhole_le_toSeconds (d : Duration) : d.roundedWhole ≤ d.toSeconds :=
  Number.le_nearest d.isShort_roundedWhole (le_add_of_nonneg_right d.isShort_roundedPart.nonneg)

theorem toSeconds_le_roundedWhole {a b : Duration} (h : a.wholeSeconds < b.wholeSeconds) :
    a.toSeconds ≤ b.roundedWhole := by
  -- Up to `2 ^ 53` the whole seconds are exact, and the rest does not reach the next one. After
  -- that the rest is too small to count.
  have hpart := a.roundedPart_lt_one
  rcases le_or_gt a.wholeSeconds (2 ^ 53) with hsmall | hlarge
  · have hexact : a.roundedWhole = a.wholeSeconds :=
      Number.nearest_eq_self (Number.isShort_natCast hsmall)
    have hnext : (a.wholeSeconds : Rat) + 1 ≤ b.wholeSeconds := by exact_mod_cast h
    rw [toSeconds_eq, hexact]
    apply Number.nearest_mono (add_nonneg (Nat.cast_nonneg _) a.isShort_roundedPart.nonneg)
    linarith
  · have hfloor : 2 ^ 53 ≤ a.roundedWhole := by
      apply Number.le_nearest (Number.isShort_two_zpow (e := 53) (by decide))
      exact_mod_cast hlarge.le
    have hwhole : a.roundedWhole ≤ b.roundedWhole :=
      Number.nearest_mono (Nat.cast_nonneg _) (by exact_mod_cast h.le)
    exact (Number.nearest_add_le a.isShort_roundedWhole hfloor a.isShort_roundedPart.nonneg
      hpart).trans hwhole

theorem toSeconds_mono {a b : Duration} (h : a ≤ b) : a.toSeconds ≤ b.toSeconds := by
  have hnanos : a.nanos ≤ b.nanos := h
  have hwhole : a.wholeSeconds ≤ b.wholeSeconds := Nat.div_le_div_right hnanos
  rcases hwhole.eq_or_lt with heq | hlt
  · have hpart : (a.subsecNanos : Rat) ≤ b.subsecNanos := by
      unfold wholeSeconds at heq
      have hle : a.subsecNanos ≤ b.subsecNanos := by
        unfold subsecNanos
        omega
      exact_mod_cast hle
    have hrounded : a.roundedPart ≤ b.roundedPart :=
      Number.nearest_mono a.subsec_nonneg (div_le_div_of_nonneg_right hpart (by norm_num))
    rw [toSeconds_eq, toSeconds_eq, roundedWhole, heq, ← roundedWhole]
    exact Number.nearest_mono (add_nonneg b.isShort_roundedWhole.nonneg a.isShort_roundedPart.nonneg)
      (add_le_add_right hrounded _)
  · exact (toSeconds_le_roundedWhole hlt).trans b.roundedWhole_le_toSeconds

/-! ## What rounding takes away -/

theorem seconds_eq (d : Duration) :
    (d.nanos : Rat) / 1000000000 = d.wholeSeconds + d.subsecNanos / 1000000000 := by
  have hsplit : d.nanos = 1000000000 * d.wholeSeconds + d.subsecNanos := (Nat.div_add_mod _ _).symm
  have hcast : (d.nanos : Rat) = 1000000000 * d.wholeSeconds + d.subsecNanos := by exact_mod_cast hsplit
  rw [hcast]
  ring

theorem wholeSeconds_le_roundedWhole (d : Duration) :
    (1 - 1 / 2 ^ 53) * (d.wholeSeconds : Rat) ≤ d.roundedWhole := by
  apply Number.le_nearest_of_normal
  rcases Nat.eq_zero_or_pos d.wholeSeconds with hzero | hpos
  · exact Or.inl (by exact_mod_cast hzero)
  · have hone : (1 : Rat) ≤ d.wholeSeconds := by exact_mod_cast hpos
    exact Or.inr (le_trans (zpow_le_one_of_nonpos₀ one_le_two (by decide)) hone)

theorem subsec_le_roundedPart (d : Duration) :
    (1 - 1 / 2 ^ 53) * ((d.subsecNanos : Rat) / 1000000000) ≤ d.roundedPart := by
  apply Number.le_nearest_of_normal
  rcases Nat.eq_zero_or_pos d.subsecNanos with hzero | hpos
  · exact Or.inl (by rw [hzero, Nat.cast_zero, zero_div])
  · have hone : (1 : Rat) ≤ d.subsecNanos := by exact_mod_cast hpos
    have htiny : (2 : Rat) ^ (-1022 : Int) ≤ 2 ^ (-30 : Int) :=
      zpow_le_zpow_right₀ one_le_two (by decide)
    have hnano : (2 : Rat) ^ (-30 : Int) ≤ 1 / 1000000000 := by norm_num
    have hpart : (1 : Rat) / 1000000000 ≤ d.subsecNanos / 1000000000 :=
      div_le_div_of_nonneg_right hone (by norm_num)
    exact Or.inr (htiny.trans (hnano.trans hpart))

theorem le_toSeconds {d : Duration} (h : 1000000000 ≤ d.nanos) :
    (1 - 1 / 2 ^ 53) * ((1 - 1 / 2 ^ 53) * (d.nanos / 1000000000 : Rat)) ≤ d.toSeconds := by
  have hwhole := d.wholeSeconds_le_roundedWhole
  have hpart := d.subsec_le_roundedPart
  have hfirst : 1 ≤ d.wholeSeconds := (Nat.one_le_div_iff (by decide)).mpr h
  have hone : 1 ≤ d.roundedWhole := by
    apply Number.le_nearest
    · exact_mod_cast Number.isShort_natCast (n := 1) (by decide)
    · exact_mod_cast hfirst
  have hnormal : (2 : Rat) ^ (-1022 : Int) ≤ d.roundedWhole + d.roundedPart := by
    refine le_trans (zpow_le_one_of_nonpos₀ one_le_two (by decide)) ?_
    linarith [d.isShort_roundedPart.nonneg]
  have hsum := Number.le_nearest_of_normal (Or.inr hnormal)
  rw [seconds_eq, toSeconds_eq]
  linarith

/-! ## Doubles as durations -/

variable {x y : Rat}

theorem ofSeconds?_eq_some_iff (hx : 0 ≤ x) {d : Duration} :
    ofSeconds? x = some d ↔ d.nanos = (Number.halfEven (x * 1000000000)).toNat := by
  rw [ofSeconds?, if_neg (not_lt.mpr hx), ofNanos?]
  obtain ⟨n, hn⟩ := d
  split
  · simp [eq_comm]
  · next hlarge => exact iff_of_false nofun fun h => hlarge (h ▸ hn)

theorem nanos_eq_halfEven (hx : 0 ≤ x) {d : Duration} (hd : ofSeconds? x = some d) :
    (d.nanos : Int) = Number.halfEven (x * 1000000000) := by
  rw [(ofSeconds?_eq_some_iff hx).mp hd, Int.toNat_of_nonneg]
  exact Number.le_halfEven (by simpa using hx)

theorem isNearestInt_nanos (hx : 0 ≤ x) {d : Duration} (hd : ofSeconds? x = some d) :
    Number.IsNearestInt (x * 1000000000) d.nanos := by
  rw [nanos_eq_halfEven hx hd]
  exact Number.isNearestInt_halfEven _

theorem ofSeconds?_mono (hx : 0 ≤ x) (hxy : x ≤ y) {a b : Duration} (ha : ofSeconds? x = some a)
    (hb : ofSeconds? y = some b) : a ≤ b := by
  have hround : Number.halfEven (x * 1000000000) ≤ Number.halfEven (y * 1000000000) :=
    Number.halfEven_mono (by linarith)
  rw [← nanos_eq_halfEven hx ha, ← nanos_eq_halfEven (hx.trans hxy) hb] at hround
  exact Int.ofNat_le.mp hround

theorem sub_half_le_nanos (hx : 0 ≤ x) {d : Duration} (hd : ofSeconds? x = some d) :
    x * 1000000000 - 1 / 2 ≤ d.nanos := by
  have hhalf := (abs_le.mp (Number.abs_sub_halfEven_le_half (x * 1000000000))).2
  rw [← nanos_eq_halfEven hx hd, Int.cast_natCast] at hhalf
  linarith

theorem ofSeconds?_eq_none_iff (hx : IsShort x) : ofSeconds? x = none ↔ 2 ^ 64 ≤ x := by
  -- The last double below `2 ^ 64` is more than a second away from it.
  rw [ofSeconds?, if_neg (not_lt.mpr hx.nonneg), ofNanos?]
  constructor
  · intro h
    by_contra hlt
    rw [not_le] at hlt
    have hlast : x ≤ 2 ^ 64 - 1 := by
      rcases le_or_gt x (2 ^ 52) with hsmall | hlarge
      · linarith
      · obtain ⟨n, rfl⟩ := hx.exists_nat hlarge
        have hn : n + 1 ≤ 2 ^ 64 := by exact_mod_cast hlt
        have hle : (n : Rat) + 1 ≤ 2 ^ 64 := by exact_mod_cast hn
        linarith
    have hround : Number.halfEven (x * 1000000000) ≤ 18446744073709551615000000000 :=
      Number.halfEven_le (by norm_num at hlast ⊢; linarith)
    rw [dif_pos (by omega)] at h
    cases h
  · intro h
    have hround : 18446744073709551616000000000 ≤ Number.halfEven (x * 1000000000) :=
      Number.le_halfEven (by norm_num at h ⊢; linarith)
    rw [dif_neg (by omega)]

end Portal.Duration

import Portal.Client.ExportWait

/-!
# Pauses between calls

A pause that grows has a least length, which only the longest one allowed can be below, and it is
never above that one. The deadline shortens it and does nothing else to it.
-/

namespace Portal

namespace Duration

theorem le_iff_nanos {a b : Duration} : a ≤ b ↔ a.nanos ≤ b.nanos := Iff.rfl

theorem eq_of_nanos {a b : Duration} (h : a.nanos = b.nanos) : a = b := by
  cases a
  cases b
  cases h
  rfl

@[simp] theorem nanos_second : (ofSeconds 1).nanos = 1000000000 := rfl

@[simp] theorem nanos_since (a b : Duration) : (a.since b).nanos = a.nanos - b.nanos := rfl

@[simp]
theorem nanos_min (a b : Duration) : (min a b).nanos = min a.nanos b.nanos := by
  rw [Nat.min_def]
  exact apply_ite nanos (a ≤ b) a b

@[simp]
theorem nanos_max (a b : Duration) : (max a b).nanos = max a.nanos b.nanos := by
  rw [Nat.max_def]
  exact apply_ite nanos (a ≤ b) b a

end Duration

namespace ExportWait

/-- No pause but the first is shorter of its own accord. -/
def shortest (longest : Duration) : Duration :=
  min (.ofSeconds 1) longest

theorem shortest_le_nextInterval (current longest : Duration) :
    shortest longest ≤ nextInterval current longest := by
  simp only [shortest, nextInterval, Duration.le_iff_nanos, Duration.nanos_min, Duration.nanos_max]
  omega

theorem nextInterval_le (current longest : Duration) : nextInterval current longest ≤ longest := by
  rw [nextInterval, Duration.le_iff_nanos, Duration.nanos_min]
  exact Nat.min_le_right ..

/-- The pause after a call where `interval` is due. -/
def pauseDue (w : ExportWait) (interval elapsed : Duration) : Duration :=
  match w.deadline with
  | none => interval
  | some deadline => min interval (deadline.since elapsed)

theorem pauseDue_le (w : ExportWait) (interval elapsed : Duration) :
    w.pauseDue interval elapsed ≤ interval := by
  unfold pauseDue
  cases w.deadline with
  | none => exact Nat.le_refl _
  | some deadline =>
    rw [Duration.le_iff_nanos, Duration.nanos_min]
    exact Nat.min_le_left ..

theorem pauseDue_of_next {w : ExportWait} {id : String} {interval elapsed pause : Duration}
    {result : Except PortalError ExportResponse}
    (h : w.next id interval result elapsed = .sleep pause) :
    pause = w.pauseDue interval elapsed ∧ ∀ d ∈ w.deadline, elapsed.nanos < d.nanos := by
  unfold next at h
  unfold pauseDue
  cases result with
  | error e => cases h
  | ok e =>
    simp only at h
    split at h
    · cases h
    · cases hd : w.deadline with
      | none =>
        rw [hd] at h
        cases h
        simp
      | some d =>
        simp only [hd] at h
        split at h
        · cases h
        · next hlate =>
          rw [Duration.le_iff_nanos] at hlate
          cases h
          simpa using hlate

end ExportWait

end Portal

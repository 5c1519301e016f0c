import Mathlib.Algebra.Order.Floor.Div
import Portal.Proofs.Wait.FirstDecisive
import Portal.Proofs.Wait.Intervals

/-!
# A deadline bounds the whole wait

No pause goes past the deadline and only the last call can start after it, so the pauses together
are no longer than the deadline. From the second one on they have a least length unless they end at
the deadline, which bounds the number of calls.
-/

namespace Portal.ExportWait

/-- Time does not run backwards, and a pause takes at least as long as it was asked to. Call number
`k` starts at `starts k` and ends at `s.clock k`. Pause number `k`, counted from 0, stands between
the calls `k + 1` and `k + 2`. -/
structure KeepsTime (s : Script) (starts : Nat → Duration) (tr : Trail) : Prop where
  start : s.clock 0 ≤ starts 1
  call : ∀ k, 0 < k → k ≤ tr.calls.length → starts k ≤ s.clock k
  pause : ∀ k p, tr.pauses[k]? = some p →
    (s.clock (k + 1)).nanos + p.nanos ≤ (starts (k + 2)).nanos

/-- The pauses that a wait asks for, whatever the clock does: each starts before the deadline and
ends there at the latest, and all but the first one have a least length or end right there. -/
structure KeepsDeadline (s : Script) (d longest : Duration) (tr : Trail) : Prop where
  early : ∀ k p, tr.pauses[k]? = some p →
    (s.elapsed (k + 1)).nanos < d.nanos ∧ (s.elapsed (k + 1)).nanos + p.nanos ≤ d.nanos
  long : ∀ k p, tr.pauses[k + 1]? = some p →
    shortest longest ≤ p ∨ (s.elapsed (k + 2)).nanos + p.nanos = d.nanos

/-! ## One round -/

theorem next_eq_sleep {w : ExportWait} {id : String} {interval elapsed d pause : Duration}
    {result : Except PortalError ExportResponse} (hd : w.deadline = some d)
    (h : w.next id interval result elapsed = .sleep pause) :
    elapsed.nanos < d.nanos ∧ pause = min interval (d.since elapsed) := by
  obtain ⟨rfl, hearly⟩ := pauseDue_of_next h
  refine ⟨hearly d hd, ?_⟩
  rw [pauseDue, hd]

variable {s : Script} {d longest : Duration} {tr : Trail}

theorem getElem?_pauses_pause {p p' : Duration} {k : Nat} (h : (tr.pause p).pauses[k]? = some p') :
    tr.pauses[k]? = some p' ∨ k = tr.pauses.length ∧ p' = p := by
  rw [Trail.pauses_pause, List.getElem?_append] at h
  split at h
  · exact Or.inl h
  · obtain ⟨hk, rfl⟩ := List.getElem?_eq_some_iff.mp h
    simp only [List.length_singleton] at hk
    exact Or.inr ⟨by omega, by simp⟩

theorem keepsDeadline_empty : KeepsDeadline s d longest .empty where
  early k p hp := by simp at hp
  long k p hp := by simp at hp

/-- A call and the pause after it. The pause that was due has the least length, unless it is the
first. -/
theorem KeepsDeadline.round (h : KeepsDeadline s d longest tr) {interval : Duration}
    (q : HttpRequest) (news : Option String)
    (hearly : (s.elapsed (tr.pauses.length + 1)).nanos < d.nanos)
    (hlong : tr.pauses ≠ [] → shortest longest ≤ interval) :
    KeepsDeadline s d longest
      ((tr.poll q news).pause (min interval (d.since (s.elapsed (tr.pauses.length + 1))))) where
  early k p hp := by
    rcases getElem?_pauses_pause hp with hp | ⟨rfl, rfl⟩
    · exact h.early k p (Trail.pauses_poll tr q news ▸ hp)
    · simp only [Trail.pauses_poll, Duration.nanos_min, Duration.nanos_since]
      omega
  long k p hp := by
    rcases getElem?_pauses_pause hp with hp | ⟨hk, rfl⟩
    · exact h.long k p (Trail.pauses_poll tr q news ▸ hp)
    · rw [Trail.pauses_poll] at hk
      have hdue := hlong (List.ne_nil_of_length_pos (by omega))
      rw [← hk] at hearly ⊢
      change _ ∨ (s.elapsed (k + 1 + 1)).nanos + _ = _
      simp only [Duration.le_iff_nanos, Duration.nanos_min, Duration.nanos_since] at hdue ⊢
      omega

/-! ## All rounds -/

/-- How far a run gets: it ends with a call, or it has made all of its calls, each with a pause
after it. -/
def EndsOrWaits (polls : Nat) (r : Option (Except PortalError ExportResponse)) (tr : Trail) : Prop :=
  (r.isSome ∧ tr.calls.length = tr.pauses.length + 1) ∨
    (r = none ∧ tr.calls.length = tr.pauses.length ∧ tr.calls.length = polls)

theorem run_pollExport_keepsDeadline (c : Client) {w : ExportWait} (id : String)
    (hd : w.deadline = some d) (polls : Nat) (interval : Duration) (last : Option String)
    (hpaired : tr.calls.length = tr.pauses.length)
    (hlong : tr.pauses ≠ [] → shortest w.maxInterval ≤ interval)
    (h : KeepsDeadline s d w.maxInterval tr) :
    ∃ r tr', (c.pollExport s.transport w id (s.clock 0) polls interval last).run tr = (r, tr') ∧
      KeepsDeadline s d w.maxInterval tr' ∧ EndsOrWaits (tr.calls.length + polls) r tr' := by
  induction polls generalizing interval last tr with
  | zero => exact ⟨none, tr, rfl, h, Or.inr ⟨rfl, hpaired, rfl⟩⟩
  | succ polls ih =>
    rw [run_pollExport_succ]
    cases hnext : w.next id interval (s.result (.exportStatus id) (tr.calls.length + 1))
        (s.elapsed (tr.calls.length + 1)) with
    | stop result =>
      refine ⟨some result, _, rfl, ⟨?_, ?_⟩, Or.inl ⟨rfl, ?_⟩⟩
      · rw [pauses_round]
        exact h.early
      · rw [pauses_round]
        exact h.long
      · rw [calls_round, pauses_round, List.length_append, hpaired]
        rfl
    | sleep pause =>
      obtain ⟨hearly, rfl⟩ := next_eq_sleep hd hnext
      rw [hpaired] at hearly ⊢
      obtain ⟨r, tr', hrun, hkeeps, hends⟩ := ih _ _ (by simp [hpaired])
        (fun _ => shortest_le_nextInterval _ _) (h.round (poll c id) _ hearly hlong)
      refine ⟨r, tr', hrun, hkeeps, ?_⟩
      rw [Trail.calls_pause, Trail.calls_poll, List.length_append, List.length_singleton] at hends
      rwa [show tr.calls.length + 1 + polls = tr.pauses.length + (polls + 1) by omega] at hends

/-! ## What the clock adds -/

variable {starts : Nat → Duration}

theorem EndsOrWaits.calls_le {polls : Nat} {r : Option (Except PortalError ExportResponse)}
    (h : EndsOrWaits polls r tr) :
    tr.pauses.length ≤ tr.calls.length ∧ tr.calls.length ≤ tr.pauses.length + 1 := by
  rcases h with ⟨-, h⟩ | ⟨-, h, -⟩ <;> omega

theorem sum_take_pauses_le (ht : KeepsTime s starts tr) (hle : tr.pauses.length ≤ tr.calls.length)
    (k : Nat) (hk : k ≤ tr.pauses.length) :
    (s.clock 0).nanos + ((tr.pauses.take k).map Duration.nanos).sum ≤ (starts (k + 1)).nanos := by
  -- The time before a call covers all pauses until then.
  induction k with
  | zero => simpa [Duration.le_iff_nanos] using ht.start
  | succ k ih =>
    have hp : tr.pauses[k]? = some tr.pauses[k] := List.getElem?_eq_getElem hk
    have hcall := ht.call (k + 1) (by omega) (by omega)
    have hpause := ht.pause k _ hp
    have hbefore := ih (by omega)
    rw [Duration.le_iff_nanos] at hcall
    rw [List.take_add_one, hp, List.map_append, List.sum_append]
    simp only [Option.toList_some, List.map_singleton, List.sum_singleton]
    change _ ≤ (starts (k + 2)).nanos
    omega

theorem sum_pauses_le (ht : KeepsTime s starts tr) (h : KeepsDeadline s d longest tr)
    (hle : tr.pauses.length ≤ tr.calls.length) :
    (tr.pauses.map Duration.nanos).sum ≤ d.nanos := by
  rcases List.eq_nil_or_concat tr.pauses with hnil | ⟨before, p, hlast⟩
  · simp [hnil]
  · have hp : tr.pauses[before.length]? = some p := by simp [hlast]
    have hsum := sum_take_pauses_le ht hle before.length (by simp [hlast])
    have hcall := ht.call (before.length + 1) (by omega) (by simp [hlast] at hle; omega)
    have hend := (h.early before.length p hp).2
    rw [Script.elapsed, Duration.nanos_since] at hend
    rw [Duration.le_iff_nanos] at hcall
    simp only [hlast, List.concat_eq_append, List.take_left] at hsum
    simp only [hlast, List.concat_eq_append, List.map_append, List.sum_append, List.map_singleton,
      List.sum_singleton]
    omega

theorem eq_last_of_late (ht : KeepsTime s starts tr) (h : KeepsDeadline s d longest tr)
    (hle : tr.calls.length ≤ tr.pauses.length + 1) {k : Nat} (hpos : 0 < k)
    (hk : k ≤ tr.calls.length) (hlate : d ≤ (starts k).since (s.clock 0)) :
    k = tr.calls.length := by
  obtain ⟨k, rfl⟩ := Nat.exists_eq_add_one_of_ne_zero (Nat.ne_of_gt hpos)
  by_contra hne
  have hlt : k < tr.pauses.length := by omega
  have hearly := (h.early k _ (List.getElem?_eq_getElem hlt)).1
  have hcall := ht.call (k + 1) hpos hk
  simp only [Script.elapsed, Duration.le_iff_nanos, Duration.nanos_since] at hearly hcall hlate
  omega

theorem starts_after_pause (ht : KeepsTime s starts tr) (h : KeepsDeadline s d longest tr)
    (hle : tr.pauses.length ≤ tr.calls.length) (k : Nat) (hk : k < tr.pauses.length) :
    (s.clock 0).nanos + (shortest longest).nanos * k ≤ (starts (k + 2)).nanos ∨
      (s.clock 0).nanos + d.nanos ≤ (starts (k + 2)).nanos := by
  -- From the second pause on, each one brings the next call further by the least length, or to the
  -- deadline.
  induction k with
  | zero =>
    left
    rw [Nat.mul_zero]
    exact Nat.le_trans (Nat.le_add_right ..) (sum_take_pauses_le ht hle 1 hk)
  | succ k ih =>
    have hp : tr.pauses[k + 1]? = some tr.pauses[k + 1] := List.getElem?_eq_getElem hk
    have hearly := (h.early (k + 1) _ hp).1
    have hlong := h.long k _ hp
    have hcall := ht.call (k + 2) (by omega) (by omega)
    have hpause := ht.pause (k + 1) _ hp
    have hbefore := ih (by omega)
    rw [Nat.mul_succ]
    simp only [Script.elapsed, Duration.le_iff_nanos, Duration.nanos_since, Nat.add_assoc,
      Nat.reduceAdd] at hearly hlong hcall hpause hbefore ⊢
    omega

theorem length_pauses_le (ht : KeepsTime s starts tr) (h : KeepsDeadline s d longest tr)
    (hle : tr.pauses.length ≤ tr.calls.length) (hpos : 0 < (shortest longest).nanos) :
    tr.pauses.length ≤ d.nanos ⌈/⌉ (shortest longest).nanos + 1 := by
  by_contra hmany
  obtain ⟨k, hk⟩ : ∃ k, tr.pauses.length = k + 2 := ⟨tr.pauses.length - 2, by omega⟩
  have hfull : d.nanos ≤ (shortest longest).nanos * k := (ceilDiv_le_iff_le_mul hpos).mp (by omega)
  have hearly := (h.early (k + 1) _ (List.getElem?_eq_getElem (by omega))).1
  have hcall := ht.call (k + 2) (by omega) (by omega)
  have hbefore := starts_after_pause ht h hle k (by omega)
  simp only [Script.elapsed, Duration.le_iff_nanos, Duration.nanos_since, Nat.add_assoc,
    Nat.reduceAdd] at hearly hcall hbefore
  omega

/-! ## The wait -/

variable (c : Client) (w : ExportWait) (id : String) (s)

/-- With a deadline, each pause starts before it and ends there at the latest, so that the time left
is never less than none, and the pauses together are no longer than the deadline. Only the last call
can start after it. If pauses may be of any length at all, the number of calls is bounded, however
short the first pause is. -/
theorem deadline_bounds_wait (hd : w.deadline = some d) (polls : Nat) :
    ∃ r tr, (c.waitForExport s.transport w id polls).run .empty = (r, tr) ∧
      ∀ starts, KeepsTime s starts tr →
        (∀ k p, tr.pauses[k]? = some p →
          (s.elapsed (k + 1)).nanos + (d.since (s.elapsed (k + 1))).nanos = d.nanos ∧
            p ≤ d.since (s.elapsed (k + 1))) ∧
        (tr.pauses.map Duration.nanos).sum ≤ d.nanos ∧
        (∀ k, 0 < k → k ≤ tr.calls.length → d ≤ (starts k).since (s.clock 0) →
          k = tr.calls.length) ∧
        (0 < w.maxInterval.nanos →
          tr.calls.length ≤ d.nanos ⌈/⌉ (shortest w.maxInterval).nanos + 2 ∧
            (d.nanos ⌈/⌉ (shortest w.maxInterval).nanos + 2 ≤ polls → r.isSome)) := by
  obtain ⟨r, tr, hrun, hkeeps, hends⟩ := run_pollExport_keepsDeadline (s := s) c id hd polls
    w.pollInterval none rfl (fun hne => absurd rfl hne) keepsDeadline_empty
  obtain ⟨hle, hlast⟩ := hends.calls_le
  refine ⟨r, tr, by rw [run_waitForExport, hrun], ?_⟩
  intro starts ht
  refine ⟨?_, sum_pauses_le ht hkeeps hle, ?_, ?_⟩
  · intro k p hp
    obtain ⟨hearly, hend⟩ := hkeeps.early k p hp
    rw [Duration.le_iff_nanos, Duration.nanos_since]
    omega
  · intro k hpos hk hlate
    exact eq_last_of_late ht hkeeps hlast hpos hk hlate
  · intro hmax
    have hpos : 0 < (shortest w.maxInterval).nanos := by
      rw [shortest, Duration.nanos_min]
      exact Nat.lt_min.mpr ⟨by decide, hmax⟩
    have hmany := length_pauses_le ht hkeeps hle hpos
    refine ⟨by omega, ?_⟩
    intro hpolls
    rcases hends with ⟨hsome, -⟩ | ⟨-, hcalls, htotal⟩
    · exact hsome
    · -- A run that has made all of its calls has made fewer than the bound.
      simp only [Trail.calls_empty, List.length_nil, Nat.zero_add] at htotal
      omega

def impatientWait : ExportWait :=
  ⟨.ofSeconds 0, ⟨500000000, by decide⟩, some (.ofSeconds 1), true⟩

/-- The export stays at work, and all time goes into the pauses. -/
@[irreducible] def endlessScript : Script where
  outcome _ := .answered (answerAt "processing")
  clock
    | 3 => ⟨500000000, by decide⟩
    | 4 => .ofSeconds 1
    | _ => .ofSeconds 0

theorem endlessScript_trail :
    let tr := ((Client.waitForExport ⟨"http://h", .ofSeconds 5, true, .empty⟩
      endlessScript.transport impatientWait "e-1" 4).run .empty).2
    tr.pauses.map Duration.nanos = [0, 500000000, 500000000] ∧ tr.calls.length = 4 := by
  decide +kernel

theorem impatient_wait_reaches_bound :
    ∃ r tr, (Client.waitForExport ⟨"http://h", .ofSeconds 5, true, .empty⟩
        endlessScript.transport impatientWait "e-1" 4).run .empty = (r, tr) ∧
      KeepsTime endlessScript endlessScript.clock tr ∧ r.isSome ∧
      (tr.pauses.map Duration.nanos).sum = (Duration.ofSeconds 1).nanos ∧
      tr.calls.length =
        (Duration.ofSeconds 1).nanos ⌈/⌉ (shortest impatientWait.maxInterval).nanos + 2 := by
  obtain ⟨r, tr, hrun, hbounds⟩ := deadline_bounds_wait endlessScript
    ⟨"http://h", .ofSeconds 5, true, .empty⟩ impatientWait "e-1" rfl 4
  obtain ⟨hpauses, hcalls⟩ := endlessScript_trail
  rw [hrun] at hpauses hcalls
  have htime : KeepsTime endlessScript endlessScript.clock tr := by
    refine ⟨by decide +kernel, fun _ _ _ => Nat.le_refl _, ?_⟩
    intro k p hp
    have hk : [0, 500000000, 500000000][k]? = some p.nanos := by
      rw [← hpauses, List.getElem?_map, hp]
      rfl
    match k, hk with
    | 0, hk | 1, hk | 2, hk =>
      rw [← Option.some.inj hk]
      decide +kernel
    | k + 3, hk => cases hk
  obtain ⟨-, -, -, hends⟩ := hbounds _ htime
  refine ⟨r, tr, hrun, htime, (hends (by decide)).2 (by decide), ?_, ?_⟩
  · rw [hpauses]
    rfl
  · rw [hcalls]
    decide

end Portal.ExportWait

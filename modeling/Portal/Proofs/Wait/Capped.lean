import Portal.Proofs.Wait.FirstDecisive
import Portal.Proofs.Wait.Intervals

/-!
# How long a pause may be

A pause that grew is never longer than the longest one allowed. The first one did not grow: it is as
long as the wait was told to begin with, unless the deadline comes earlier.
-/

namespace Portal.ExportWait

def IsCapped (w : ExportWait) (pauses : List Duration) : Prop :=
  ∀ p ∈ pauses, p ≤ w.maxInterval

variable (c : Client) {w : ExportWait} (id : String) (s : Script)

theorem run_pollExport_capped (polls : Nat) {interval : Duration} (last : Option String) (tr : Trail)
    (h : interval ≤ w.maxInterval) :
    ∃ r tr' ps, (c.pollExport s.transport w id (s.clock 0) polls interval last).run tr = (r, tr') ∧
      tr'.pauses = tr.pauses ++ ps ∧ w.IsCapped ps := by
  induction polls generalizing interval last tr with
  | zero => exact ⟨none, tr, [], rfl, by simp, by simp [IsCapped]⟩
  | succ polls ih =>
    rw [run_pollExport_succ]
    cases hnext : w.next id interval (s.result (.exportStatus id) (tr.calls.length + 1))
        (s.elapsed (tr.calls.length + 1)) with
    | stop result =>
      exact ⟨some result, round c w id s last tr, [], rfl, by simp, by simp [IsCapped]⟩
    | sleep pause =>
      have hpause : pause ≤ w.maxInterval := by
        rw [(pauseDue_of_next hnext).1]
        exact Nat.le_trans (pauseDue_le ..) h
      obtain ⟨r, tr', ps, hrun, hpauses, hcapped⟩ :=
        ih _ ((round c w id s last tr).pause pause) (nextInterval_le pause w.maxInterval)
      refine ⟨r, tr', pause :: ps, hrun, ?_, ?_⟩
      · rw [hpauses]
        simp
      · exact List.forall_mem_cons.mpr ⟨hpause, hcapped⟩

variable (w)

/-- The pauses of a wait: none, if its first call decides, and otherwise the first one as it is due and
capped ones after it. -/
theorem exists_pauses (polls : Nat) :
    ∃ r tr, (c.waitForExport s.transport w id polls).run .empty = (r, tr) ∧
      ((polls = 0 ∨ w.Decisive id s 1) ∧ tr.pauses = [] ∨
        (0 < polls ∧ ¬ w.Decisive id s 1) ∧ ∃ ps, w.IsCapped ps ∧
          tr.pauses = w.pauseDue w.pollInterval (s.elapsed 1) :: ps) := by
  cases polls with
  | zero => exact ⟨none, .empty, rfl, Or.inl ⟨Or.inl rfl, rfl⟩⟩
  | succ polls =>
    rw [run_waitForExport, run_pollExport_succ]
    simp only [Trail.calls_empty, List.length_nil, Nat.zero_add]
    by_cases hdec : w.Decisive id s 1
    · rw [next_of_decisive hdec]
      exact ⟨_, _, rfl, Or.inl ⟨Or.inr hdec, pauses_round c w id s none .empty⟩⟩
    · obtain ⟨pause, hnext⟩ := next_of_not_decisive hdec w.pollInterval
      rw [hnext]
      obtain ⟨r, tr, ps, hrun, hpauses, hcapped⟩ := run_pollExport_capped c id s polls _
        ((round c w id s none .empty).pause pause) (nextInterval_le pause w.maxInterval)
      refine ⟨r, tr, hrun, Or.inr ⟨⟨polls.succ_pos, hdec⟩, ps, hcapped, ?_⟩⟩
      rw [hpauses, (pauseDue_of_next hnext).1, Trail.pauses_pause, pauses_round]
      rfl

/-- All pauses but the first are capped. All of them are exactly if the first one is: the pause the
wait begins with, or the time left to the deadline if that is shorter. -/
theorem pauses_capped_iff (polls : Nat) :
    ∃ r tr, (c.waitForExport s.transport w id polls).run .empty = (r, tr) ∧
      w.IsCapped tr.pauses.tail ∧
      (w.IsCapped tr.pauses ↔ (0 < polls → ¬ w.Decisive id s 1 →
        w.pauseDue w.pollInterval (s.elapsed 1) ≤ w.maxInterval)) := by
  obtain ⟨r, tr, hrun, ⟨hend, hnone⟩ | ⟨⟨hpolls, hdec⟩, ps, hcapped, hpauses⟩⟩ :=
    exists_pauses c w id s polls
  · refine ⟨r, tr, hrun, by simp [hnone, IsCapped], ?_⟩
    refine iff_of_true (by simp [hnone, IsCapped]) ?_
    intro hpolls hdec
    rcases hend with hzero | hyes
    · omega
    · exact absurd hyes hdec
  · refine ⟨r, tr, hrun, by rwa [hpauses], ?_⟩
    rw [hpauses, IsCapped, List.forall_mem_cons]
    constructor
    · rintro ⟨hfirst, -⟩ - -
      exact hfirst
    · intro hfirst
      exact ⟨hfirst hpolls hdec, hcapped⟩

/-- A minute to begin with, where a second is the longest pause there may be. -/
def slowStart : ExportWait :=
  ⟨.ofSeconds 60, .ofSeconds 1, none, false⟩

/-- The export stays at work, and all time goes into the pauses. -/
@[irreducible] def busyScript : Script where
  outcome _ := .answered (answerAt "processing")
  clock
    | 0 | 1 => .ofSeconds 0
    | 2 => .ofSeconds 60
    | _ => .ofSeconds 61

theorem busyScript_undecided (k : Nat) : ¬ slowStart.Decisive "e-1" busyScript k := by
  have hfound : busyScript.result (.exportStatus "e-1") k = .ok (exportAt "processing") := by
    have hone : busyScript.result (.exportStatus "e-1") 1 = .ok (exportAt "processing") :=
      eq_ok_of_toOption (by decide +kernel)
    rw [← hone]
    unfold busyScript
    rfl
  refine not_decisive_of_early hfound not_hasEnded_processing ?_
  simp [slowStart]

/-- No call ever decides, and the first pause is sixty times as long as the longest one allowed. -/
theorem slow_start_is_not_capped :
    (∀ k, ¬ slowStart.Decisive "e-1" busyScript k) ∧
      ∃ tr, (Client.waitForExport ⟨"http://h", .ofSeconds 5, true, .empty⟩
          busyScript.transport slowStart "e-1" 3).run .empty = (none, tr) ∧
        tr.pauses = [.ofSeconds 60, .ofSeconds 1, .ofSeconds 1] ∧ ¬ slowStart.IsCapped tr.pauses := by
  have hpauses : ((Client.waitForExport ⟨"http://h", .ofSeconds 5, true, .empty⟩
      busyScript.transport slowStart "e-1" 3).run .empty).2.pauses =
        [.ofSeconds 60, .ofSeconds 1, .ofSeconds 1] := by decide +kernel
  have hnone : Gives ⟨"http://h", .ofSeconds 5, true, .empty⟩ slowStart "e-1" busyScript 3 none 3 :=
    gives_none _ _ _ _ fun k _ _ => busyScript_undecided k
  obtain ⟨tr, hrun, -⟩ := hnone
  rw [hrun] at hpauses
  refine ⟨busyScript_undecided, tr, hrun, hpauses, ?_⟩
  intro h
  rw [hpauses] at h
  exact absurd (h _ List.mem_cons_self) (by decide)

end Portal.ExportWait

import Mathlib.Order.Bounds.Defs
import Portal.Client.ExportWait
import Portal.Proofs.Http.Script
import Portal.Proofs.Success

/-!
# A wait ends at its first decisive call

A call is decisive if it fails, finds the export at its end or comes back past the deadline. The
wait ends with the first such call, and neither what comes later nor what is shown meanwhile matters.
What is shown is each status that is another one than before.
-/

namespace Portal.ExportWait

/-- The status says that the server is done, well or not. -/
def HasEnded (e : ExportResponse) : Prop :=
  String.ofList (Text.lower (Text.trim e.status.toList)) ∈ ["completed", "failed"]

instance (e : ExportResponse) : Decidable (HasEnded e) := inferInstanceAs (Decidable (_ ∈ _))

def Decisive (w : ExportWait) (id : String) (s : Script) (k : Nat) : Prop :=
  match s.result (.exportStatus id) k with
  | .error _ => True
  | .ok e => HasEnded e ∨ ∃ d, w.deadline = some d ∧ d ≤ s.elapsed k

/-- What a wait that ends with call `k` gives. The end of the export counts even past the deadline. -/
def verdict (id : String) (s : Script) (k : Nat) : Except PortalError ExportResponse :=
  match s.result (.exportStatus id) k with
  | .error e => .error e
  | .ok e =>
    if HasEnded e then .ok e
    else .error (.timeout s!"export {id} still {e.status} after {(s.elapsed k).text}")

theorem not_decisive_of_early {w : ExportWait} {id : String} {s : Script} {k : Nat}
    {e : ExportResponse} (h : s.result (.exportStatus id) k = .ok e) (he : ¬ HasEnded e)
    (hd : ∀ d ∈ w.deadline, ¬ d ≤ s.elapsed k) : ¬ w.Decisive id s k := by
  rw [Decisive, h]
  rintro (hend | ⟨d, hw, hle⟩)
  · exact he hend
  · exact hd d hw hle

theorem isFinished_iff (e : ExportResponse) : e.isFinished = true ↔ HasEnded e := by
  unfold ExportResponse.isFinished ExportResponse.state ExportState.ofStatus HasEnded
  split <;> simp_all [ExportState.isFinished]

theorem next_of_decisive {w : ExportWait} {id : String} {s : Script} {k : Nat}
    (h : w.Decisive id s k) (interval : Duration) :
    w.next id interval (s.result (.exportStatus id) k) (s.elapsed k) = .stop (verdict id s k) := by
  unfold Decisive at h
  unfold next verdict
  cases hr : s.result (.exportStatus id) k with
  | error e => rfl
  | ok e =>
    rw [hr] at h
    by_cases hend : HasEnded e
    · simp only [isFinished_iff, if_pos hend]
    · obtain ⟨d, hd, hle⟩ := h.resolve_left hend
      simp only [isFinished_iff, if_neg hend, hd, if_pos hle, timeoutError]

theorem next_of_not_decisive {w : ExportWait} {id : String} {s : Script} {k : Nat}
    (h : ¬ w.Decisive id s k) (interval : Duration) :
    ∃ pause, w.next id interval (s.result (.exportStatus id) k) (s.elapsed k) = .sleep pause := by
  unfold Decisive at h
  unfold next
  cases hr : s.result (.exportStatus id) k with
  | error e =>
    rw [hr] at h
    exact absurd trivial h
  | ok e =>
    rw [hr] at h
    obtain ⟨hend, hdead⟩ := not_or.mp h
    simp only [isFinished_iff, if_neg hend]
    cases hw : w.deadline with
    | none => exact ⟨interval, rfl⟩
    | some d =>
      have hlate : ¬ d ≤ s.elapsed k := fun hle => hdead ⟨d, hw, hle⟩
      exact ⟨_, if_neg hlate⟩

/-! ## All rounds -/

/-- What every call of a wait asks. -/
def poll (c : Client) (id : String) : HttpRequest :=
  c.httpRequest (.get s!"/v1/exports/{Url.encodeSegment id}")

variable (c : Client) (w : ExportWait) (id : String) (s : Script)

/-- The next call, and what is shown after it. -/
def round (last : Option String) (tr : Trail) : Trail :=
  tr.poll (poll c id) (w.news id last (s.result (.exportStatus id) (tr.calls.length + 1)))

@[simp] theorem calls_round (last : Option String) (tr : Trail) :
    (round c w id s last tr).calls = tr.calls ++ [poll c id] := Trail.calls_poll ..

@[simp] theorem pauses_round (last : Option String) (tr : Trail) :
    (round c w id s last tr).pauses = tr.pauses := Trail.pauses_poll ..

theorem run_report (news : Option String) (tr : Trail) (q : HttpRequest) :
    (news.forM s.transport.report).run (tr.call q) = ((), tr.poll q news) := by
  cases news <;> rfl

theorem run_pollExport_succ (polls : Nat) (interval : Duration) (last : Option String) (tr : Trail) :
    (c.pollExport s.transport w id (s.clock 0) (polls + 1) interval last).run tr =
      match w.next id interval (s.result (.exportStatus id) (tr.calls.length + 1))
        (s.elapsed (tr.calls.length + 1)) with
      | .stop result => (some result, round c w id s last tr)
      | .sleep pause =>
        (c.pollExport s.transport w id (s.clock 0) polls (nextInterval pause w.maxInterval)
          (lastStatus last (s.result (.exportStatus id) (tr.calls.length + 1)))).run
            ((round c w id s last tr).pause pause) := by
  rw [Client.pollExport, Script.elapsed]
  simp only [StateT.run_bind, Script.run_operation, Script.run_now]
  simp only [bind, run_report, Trail.calls_poll, List.length_append, List.length_singleton]
  generalize w.next id interval _ _ = decision
  cases decision <;> rfl

theorem run_pollExport_waits (polls : Nat) (interval : Duration) (last : Option String) (tr : Trail)
    (h : ∀ k, tr.calls.length < k → k ≤ tr.calls.length + polls → ¬ w.Decisive id s k) :
    ∃ tr', (c.pollExport s.transport w id (s.clock 0) polls interval last).run tr = (none, tr') ∧
      tr'.calls = tr.calls ++ List.replicate polls (poll c id) := by
  induction polls generalizing interval last tr with
  | zero => exact ⟨tr, rfl, by simp⟩
  | succ polls ih =>
    have hgoes : ¬ w.Decisive id s (tr.calls.length + 1) := h _ (by omega) (by omega)
    obtain ⟨pause, hnext⟩ := next_of_not_decisive hgoes interval
    rw [run_pollExport_succ, hnext]
    obtain ⟨tr', hrun, hcalls⟩ := ih (nextInterval pause w.maxInterval) _
      ((round c w id s last tr).pause pause) (by
        intro k hk hle
        simp at hk hle
        exact h k (by omega) (by omega))
    refine ⟨tr', hrun, ?_⟩
    rw [hcalls]
    simp [List.replicate_succ]

/-- The calls before number `k` decide nothing, so the wait gets to it and ends there. -/
theorem run_pollExport_ends (polls : Nat) (interval : Duration) (last : Option String) (tr : Trail)
    (k : Nat) (hlt : tr.calls.length < k) (hle : k ≤ tr.calls.length + polls)
    (hk : w.Decisive id s k) (hfirst : ∀ j, tr.calls.length < j → j < k → ¬ w.Decisive id s j) :
    ∃ tr', (c.pollExport s.transport w id (s.clock 0) polls interval last).run tr =
        (some (verdict id s k), tr') ∧
      tr'.calls = tr.calls ++ List.replicate (k - tr.calls.length) (poll c id) := by
  induction polls generalizing interval last tr with
  | zero => omega
  | succ polls ih =>
    rw [run_pollExport_succ]
    by_cases hnow : k = tr.calls.length + 1
    · -- This call is the decisive one.
      rw [← hnow, next_of_decisive hk]
      exact ⟨_, rfl, by simp [hnow]⟩
    · have hgoes : ¬ w.Decisive id s (tr.calls.length + 1) := hfirst _ (by omega) (by omega)
      obtain ⟨pause, hnext⟩ := next_of_not_decisive hgoes interval
      rw [hnext]
      obtain ⟨tr', hrun, hcalls⟩ := ih (nextInterval pause w.maxInterval) _
        ((round c w id s last tr).pause pause) (by simp; omega) (by simp; omega) (by
          intro j hj hjk
          simp at hj
          exact hfirst j (by omega) hjk)
      refine ⟨tr', hrun, ?_⟩
      rw [hcalls]
      simp only [Trail.calls_pause, calls_round, List.length_append, List.length_singleton,
        List.append_assoc]
      rw [show k - tr.calls.length = (k - (tr.calls.length + 1)) + 1 by omega,
        List.replicate_succ]
      rfl

/-! ## The wait -/

/-- With at most `polls` calls the wait gives `r`, after `n` calls that all ask the same. -/
def Gives (polls : Nat) (r : Option (Except PortalError ExportResponse)) (n : Nat) : Prop :=
  ∃ tr, (c.waitForExport s.transport w id polls).run .empty = (r, tr) ∧
    tr.calls = List.replicate n (poll c id)

theorem run_waitForExport (polls : Nat) :
    (c.waitForExport s.transport w id polls).run .empty =
      (c.pollExport s.transport w id (s.clock 0) polls w.pollInterval none).run .empty := rfl

theorem gives_none {polls : Nat} (h : ∀ k, 0 < k → k ≤ polls → ¬ w.Decisive id s k) :
    Gives c w id s polls none polls := by
  obtain ⟨tr, hrun, hcalls⟩ := run_pollExport_waits c w id s polls w.pollInterval none .empty (by
    intro k hk hle
    simp at hk hle
    exact h k hk hle)
  exact ⟨tr, by rw [run_waitForExport, hrun], by simpa using hcalls⟩

theorem gives_verdict {polls k : Nat} (h : IsLeast {k | 0 < k ∧ w.Decisive id s k} k)
    (hle : k ≤ polls) : Gives c w id s polls (some (verdict id s k)) k := by
  obtain ⟨⟨hpos, hk⟩, hmin⟩ := h
  obtain ⟨tr, hrun, hcalls⟩ := run_pollExport_ends c w id s polls w.pollInterval none .empty
    k (by simpa using hpos) (by simpa using hle) hk (by
      intro j hj hjk hdec
      have := hmin ⟨by simpa using hj, hdec⟩
      omega)
  exact ⟨tr, by rw [run_waitForExport, hrun], by simpa using hcalls⟩

variable {c w id s}

variable (c w id s)

def exportAt (status : String) : ExportResponse :=
  ⟨"e-1", status, ⟨⟨2024, 3, 1, by decide⟩, 10, 0, 0, 0, by decide⟩, none⟩

def answerAt (status : String) : HttpAnswer :=
  ⟨200, [("content-type", "application/json")],
    "\x7b\"data\":\x7b\"export_id\":\"e-1\",\"created_at\":\"2024-03-01T10:00:00Z\"," ++
      "\"status\":\"" ++ status ++ "\"\x7d\x7d"⟩

theorem not_hasEnded_processing : ¬ HasEnded (exportAt "processing") := by decide +kernel

theorem news_eq_some_iff {last : Option String} {r : Except PortalError ExportResponse}
    {text : String} :
    w.news id last r = some text ↔
      w.progress = true ∧ ∃ e, r = .ok e ∧ last ≠ some e.status ∧ text = s!"{id} {e.status}" := by
  cases r with
  | error e => simp [news, lastStatus]
  | ok e =>
    have hnews : w.news id last (.ok e) =
        if w.progress = true ∧ some e.status ≠ last then some s!"{id} {e.status}" else none := rfl
    rw [hnews, Option.ite_none_right_eq_some]
    simp only [Except.ok.injEq, exists_eq_left', Option.some.injEq, and_assoc]
    rw [ne_comm, @eq_comm _ text]

/-- What is shown after calls with these results, where `last` was known before them. -/
def headlines (last : Option String) : List (Except PortalError ExportResponse) → List String
  | [] => []
  | r :: rs => (w.news id last r).toList ++ headlines (lastStatus last r) rs

theorem headlines_of_quiet (h : w.progress = false) (last : Option String)
    (rs : List (Except PortalError ExportResponse)) : headlines w id last rs = [] := by
  induction rs generalizing last with
  | nil => rfl
  | cons r rs ih =>
    have hnone : w.news id last r = none := by
      rw [Option.eq_none_iff_forall_ne_some]
      intro text htext
      exact absurd ((news_eq_some_iff w id).mp htext).1 (by simp [h])
    rw [headlines, hnone, ih]
    rfl

theorem shown_round (last : Option String) (tr : Trail) :
    (round c w id s last tr).shown = tr.shown ++
      (w.news id last (s.result (.exportStatus id) (tr.calls.length + 1))).toList := by
  unfold round Trail.poll
  cases w.news id last _ with
  | none => exact (List.append_nil _).symm
  | some text => rfl

theorem run_pollExport_shows (polls : Nat) (interval : Duration) (last : Option String)
    (tr : Trail) :
    ∃ n r tr', (c.pollExport s.transport w id (s.clock 0) polls interval last).run tr = (r, tr') ∧
      tr'.calls.length = tr.calls.length + n ∧
      tr'.shown = tr.shown ++ headlines w id last
        ((List.range' (tr.calls.length + 1) n).map (s.result (.exportStatus id))) := by
  induction polls generalizing interval last tr with
  | zero => exact ⟨0, none, tr, rfl, rfl, (List.append_nil _).symm⟩
  | succ polls ih =>
    rw [run_pollExport_succ]
    cases w.next id interval _ _ with
    | stop result =>
      refine ⟨1, _, _, rfl, by simp, ?_⟩
      simp [shown_round, headlines]
    | sleep pause =>
      obtain ⟨n, r, tr', hrun, hcalls, hshown⟩ := ih (nextInterval pause w.maxInterval)
        (lastStatus last (s.result (.exportStatus id) (tr.calls.length + 1)))
        ((round c w id s last tr).pause pause)
      refine ⟨n + 1, r, tr', hrun, ?_, ?_⟩
      · rw [hcalls]
        simp
        omega
      · rw [hshown]
        simp [shown_round, headlines, List.range'_succ, Trail.pause]

/-- A wait that is told to shows each status that is another one than before, and any other wait
shows nothing. -/
theorem wait_shows_new_statuses (polls : Nat) :
    ∃ n r tr, (c.waitForExport s.transport w id polls).run .empty = (r, tr) ∧
      tr.calls.length = n ∧
      tr.shown = headlines w id none ((List.range' 1 n).map (s.result (.exportStatus id))) ∧
      (w.progress = false → tr.shown = []) := by
  obtain ⟨n, r, tr, hrun, hcalls, hshown⟩ :=
    run_pollExport_shows c w id s polls w.pollInterval none .empty
  have hall : tr.shown =
      headlines w id none ((List.range' 1 n).map (s.result (.exportStatus id))) := by
    simpa [Trail.empty] using hshown
  refine ⟨n, r, tr, hrun, by simpa using hcalls, hall, ?_⟩
  intro hquiet
  rw [hall, headlines_of_quiet w id hquiet]

end Portal.ExportWait

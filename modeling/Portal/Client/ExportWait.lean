import Portal.Client.Operation

/-!
# Waiting for an export

Its status is asked for again and again, with pauses that grow by half each time, until the export
is finished, a call fails or the deadline is reached. The deadline only counts after a call, and
shortens the pause before it. A wait that is told to shows each new status.
-/

namespace Portal

structure ExportWait where
  /-- The pause before the second call. -/
  pollInterval : Duration
  maxInterval : Duration
  /-- Without one the wait has no end of its own. -/
  deadline : Option Duration
  /-- Whether to show the status. -/
  progress : Bool
  deriving DecidableEq

namespace ExportWait

def default : ExportWait :=
  ⟨.ofSeconds 1, .ofSeconds 30, none, false⟩

/-- Half as long again, as doubles compute it. At least a second, and at most `longest` above all. -/
def nextInterval (current longest : Duration) : Duration :=
  let grown := Number.nearest (current.toSeconds * (3 / 2))
  min (max ((Duration.ofSeconds? grown).getD longest) (.ofSeconds 1)) longest

/-- What to do after a call. -/
inductive Next
  | stop (result : Except PortalError ExportResponse)
  | sleep (pause : Duration)

def timeoutError (id : String) (e : ExportResponse) (elapsed : Duration) : PortalError :=
  .timeout s!"export {id} still {e.status} after {elapsed.text}"

/-- Decides with the pause that is due and the time since the start. -/
def next (w : ExportWait) (id : String) (interval : Duration)
    (result : Except PortalError ExportResponse) (elapsed : Duration) : Next :=
  match result with
  | .error e => .stop (.error e)
  | .ok e =>
    if e.isFinished then .stop (.ok e)
    else
      match w.deadline with
      | none => .sleep interval
      | some deadline =>
        if deadline ≤ elapsed then .stop (.error (timeoutError id e elapsed))
        else .sleep (min interval (deadline.since elapsed))

/-- The status that a call finds, or the one known before it. -/
def lastStatus (last : Option String) : Except PortalError ExportResponse → Option String
  | .ok e => some e.status
  | .error _ => last

/-- What there is to show after a call: a status other than the last one. -/
def news (w : ExportWait) (id : String) (last : Option String)
    (result : Except PortalError ExportResponse) : Option String :=
  if w.progress ∧ lastStatus last result ≠ last then
    (lastStatus last result).map fun status => s!"{id} {status}"
  else none

end ExportWait

namespace Client

/-- At most `polls` calls. `none` if the wait goes on after them. -/
def pollExport [Monad m] (c : Client) (t : Transport m) (w : ExportWait) (id : String)
    (started : Duration) : (polls : Nat) → (interval : Duration) → (last : Option String) →
    m (Option (Except PortalError ExportResponse))
  | 0, _, _ => return none
  | polls + 1, interval, last => do
    let result ← c.run t (.exportStatus id)
    (w.news id last result).forM t.report
    let now ← t.now
    match w.next id interval result (now.since started) with
    | .stop result => return some result
    | .sleep pause =>
      t.sleep pause
      pollExport c t w id started polls (ExportWait.nextInterval pause w.maxInterval)
        (ExportWait.lastStatus last result)

/-- A failed export is a result, not an error. -/
def waitForExport [Monad m] (c : Client) (t : Transport m) (w : ExportWait) (id : String)
    (polls : Nat) : m (Option (Except PortalError ExportResponse)) := do
  let started ← t.now
  pollExport c t w id started polls w.pollInterval none

end Client

end Portal

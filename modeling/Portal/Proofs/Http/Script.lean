import Portal.Client.Operation

/-!
# Scripts

A transport that is told beforehand how each call ends and what the clock shows, and that keeps a
trail of what it is asked and what it shows. Calls are numbered from 1.
-/

namespace Portal

structure Script where
  outcome : Nat → Outcome
  /-- The time after so many calls. Time 0 is the start. -/
  clock : Nat → Duration

/-- What a transport was asked to do, in order. -/
structure Trail where
  calls : List HttpRequest
  pauses : List Duration
  shown : List String

namespace Trail

def empty : Trail := ⟨[], [], []⟩

def call (tr : Trail) (q : HttpRequest) : Trail :=
  { tr with calls := tr.calls ++ [q] }

def pause (tr : Trail) (d : Duration) : Trail :=
  { tr with pauses := tr.pauses ++ [d] }

def report (tr : Trail) (text : String) : Trail :=
  { tr with shown := tr.shown ++ [text] }

/-- A call, and what there is to show after it. -/
def poll (tr : Trail) (q : HttpRequest) (news : Option String) : Trail :=
  news.elim (tr.call q) (tr.call q).report

@[simp] theorem calls_empty : empty.calls = [] := rfl
@[simp] theorem pauses_empty : empty.pauses = [] := rfl
@[simp] theorem calls_call (tr : Trail) (q : HttpRequest) :
    (tr.call q).calls = tr.calls ++ [q] := rfl
@[simp] theorem pauses_call (tr : Trail) (q : HttpRequest) : (tr.call q).pauses = tr.pauses := rfl
@[simp] theorem calls_pause (tr : Trail) (d : Duration) : (tr.pause d).calls = tr.calls := rfl
@[simp] theorem pauses_pause (tr : Trail) (d : Duration) :
    (tr.pause d).pauses = tr.pauses ++ [d] := rfl
@[simp] theorem calls_poll (tr : Trail) (q : HttpRequest) (news : Option String) :
    (tr.poll q news).calls = tr.calls ++ [q] := by cases news <;> rfl
@[simp] theorem pauses_poll (tr : Trail) (q : HttpRequest) (news : Option String) :
    (tr.poll q news).pauses = tr.pauses := by cases news <;> rfl

end Trail

namespace Script

def transport (s : Script) : Transport (StateM Trail) where
  send q := modifyGet fun tr => (s.outcome (tr.calls.length + 1), tr.call q)
  now := do return s.clock (← get).calls.length
  sleep d := modify fun tr => tr.pause d
  report text := modify fun tr => tr.report text

def result (s : Script) (op : Operation α) (k : Nat) : Except PortalError α :=
  (s.outcome k).payload.bind op.read

/-- The time from the start to the end of call number `k`. -/
def elapsed (s : Script) (k : Nat) : Duration :=
  (s.clock k).since (s.clock 0)

variable (s : Script) (tr : Trail)

@[simp] theorem run_send (q : HttpRequest) :
    (s.transport.send q).run tr = (s.outcome (tr.calls.length + 1), tr.call q) := rfl

@[simp] theorem run_now : s.transport.now.run tr = (s.clock tr.calls.length, tr) := rfl

@[simp] theorem run_sleep (d : Duration) : (s.transport.sleep d).run tr = ((), tr.pause d) := rfl

@[simp] theorem run_execute (c : Client) (r : ApiRequest) :
    (c.execute s.transport r).run tr =
      ((s.outcome (tr.calls.length + 1)).payload, tr.call (c.httpRequest r)) := rfl

@[simp] theorem run_operation (c : Client) (op : Operation α) :
    (c.run s.transport op).run tr =
      (s.result op (tr.calls.length + 1), tr.call (c.httpRequest op.request)) := rfl

end Script

end Portal

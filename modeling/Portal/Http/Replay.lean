import Portal.Http.Transport
import Portal.Text.Utf8

/-!
# Replay

A transport without a network: one server at most, which answers from a list. It records what it is
asked, and time passes only by waiting. It reads every body as UTF-8, and shows nothing.
-/

namespace Portal

/-- An answer as it is sent. -/
structure RawAnswer where
  status : Nat
  headers : Headers
  body : List UInt8

namespace RawAnswer

/-- Answers with these statuses have no body. -/
def text (a : RawAnswer) : String :=
  if a.status = 204 ∨ a.status = 304 then "" else .ofList (Utf8.bodyText a.body)

def read (a : RawAnswer) : HttpAnswer :=
  ⟨a.status, a.headers, a.text⟩

end RawAnswer

/-- What the server does with a request. -/
inductive Reply
  | answer (answer : RawAnswer)
  /-- The connection ends before the answer does. -/
  | dropped
  /-- Nothing more comes. -/
  | stalled

structure Replay where
  /-- Host and port that can be reached. -/
  server : Option (List Char × Nat)
  /-- One for each request. The last one stays. -/
  replies : List Reply
  timeout : Duration
  clock : Duration
  /-- The last request comes first. -/
  seen : List HttpRequest

namespace Replay

def isReached (r : Replay) (q : HttpRequest) : Bool :=
  q.address?.any fun a => r.server = some (a.host, a.port)

def nextReply : List Reply → Reply × List Reply
  | [] => (.dropped, [])
  | [last] => (last, [last])
  | reply :: rest => (reply, rest)

def exchange (q : HttpRequest) (r : Replay) : Outcome × Replay :=
  if r.isReached q then
    let (reply, replies) := nextReply r.replies
    let r := { r with replies, seen := q :: r.seen }
    match reply with
    | .answer a => (.answered a.read, r)
    | .dropped => (.failed "connection closed", r)
    | .stalled => (.timedOut "operation timed out", { r with clock := r.clock.plus r.timeout })
  else (.failed "no connection", r)

def transport : Transport (StateM Replay) where
  send q := modifyGet (exchange q)
  now := do return (← get).clock
  sleep d := modify fun r => { r with clock := r.clock.plus d }
  report _ := pure ()

end Replay

end Portal

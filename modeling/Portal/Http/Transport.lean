import Portal.Http.Answer
import Portal.Http.Request
import Portal.Time.Duration
import Portal.Url.Address

/-!
# Transport

What goes out and what comes back. Sending, the clock, waiting and what is shown meanwhile are left
open: a client works in any monad that has them. A URL that is no address fails when it is sent, like
a server that is out of reach.
-/

namespace Portal

structure HttpRequest where
  method : String
  url : String
  /-- Pairs that follow the query of the URL. -/
  params : List (String × String)
  headers : Headers
  body : Option String

/-- Where the request goes, if it can go anywhere. A transport may still refuse it. -/
def HttpRequest.address? (q : HttpRequest) : Option Address :=
  (Address.ofString? q.url).map fun a => a.withParams q.params

/-- The headers on the wire. A transport makes `credentials` of a user that the URL names, and the
headers of the request come before them. -/
def HttpRequest.sentHeaders (credentials : String → Headers) (q : HttpRequest) : Headers :=
  (credentials q.url).merge q.headers

/-- An answer as the transport hands it over. How the bytes of its body become a text depends on the
transport and on the headers. -/
structure HttpAnswer where
  status : Nat
  headers : Headers
  text : String

namespace HttpAnswer

def isEdge (c : Char) : Bool :=
  c == ' ' || c == '\t'

/-- The first value of a name, if it is a text. Spaces around it do not belong to it. -/
def header? (a : HttpAnswer) (key : String) : Option String := do
  let value ← a.headers.get? key
  let s := String.ofList (Text.dropEndWhile isEdge (value.toList.dropWhile isEdge))
  if Headers.isText s then some s else none

def answer (a : HttpAnswer) : Answer :=
  ⟨a.status, a.header? "content-type", a.header? "retry-after", a.text⟩

end HttpAnswer

/-- What became of a request. -/
inductive Outcome
  | answered (answer : HttpAnswer)
  | failed (reason : String)
  | timedOut (reason : String)

def Outcome.payload : Outcome → Except PortalError Json
  | .answered a => a.answer.payload
  | .failed reason => .error (.network reason)
  | .timedOut reason => .error (.timeout reason)

structure Transport (m : Type → Type) where
  send : HttpRequest → m Outcome
  /-- Time since some moment in the past. -/
  now : m Duration
  sleep : Duration → m Unit
  /-- Shows how things stand. -/
  report : String → m Unit

end Portal

import Portal.Json.Basic

/-!
# Errors of a call

Answers of the server with a status of 400 or more, failures on the way to it, and answers that do
not fit the call.
-/

namespace Portal

/-- The body of an error answer, if it is a JSON object. -/
abbrev Details := Option Members

inductive PortalError
  | authentication (message : String) (details : Details)
  | authorization (message : String) (details : Details)
  | notFound (message : String) (details : Details)
  | validation (status : Nat) (message : String) (details : Details)
  | rateLimit (message : String) (details : Details)
  | server (status : Nat) (message : String) (details : Details)
  | api (status : Nat) (message : String) (details : Details)
  | network (message : String)
  | timeout (message : String)
  | decode (message : String)

namespace PortalError

def message : PortalError → String
  | authentication m _ | authorization m _ | notFound m _ | validation _ m _ | rateLimit m _
  | server _ m _ | api _ m _ | network m | timeout m | decode m => m

def details : PortalError → Details
  | authentication _ d | authorization _ d | notFound _ d | validation _ _ d | rateLimit _ d
  | server _ _ d | api _ _ d => d
  | network _ | timeout _ | decode _ => none

/-- The status that the error stands for. Without an answer there is none. -/
def status : PortalError → Option Nat
  | authentication .. => some 401
  | authorization .. => some 403
  | notFound .. => some 404
  | rateLimit .. => some 429
  | validation s _ _ | server s _ _ | api s _ _ => some s
  | network _ | timeout _ | decode _ => none

/-- No complete answer arrived. -/
def isNetwork : PortalError → Bool
  | network _ | timeout _ => true
  | _ => false

/-- The same call may succeed later. -/
def isRetryable : PortalError → Bool
  | network _ | timeout _ | rateLimit .. | server .. => true
  | _ => false

/-- The message with its kind in front, where the message does not say it. -/
def display : PortalError → String
  | authentication m _ | authorization m _ | notFound m _ => m
  | validation _ m _ => s!"Validation failed: {m}"
  | rateLimit m _ => s!"Rate limit exceeded: {m}"
  | server s m _ => s!"Server error (HTTP {s}): {m}"
  | api _ m _ => s!"API error: {m}"
  | network m => s!"Request failed: {m}"
  | timeout m => s!"Request timed out: {m}"
  | decode m => s!"Failed to decode response: {m}"

end PortalError

end Portal

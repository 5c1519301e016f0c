import Portal.Error
import Portal.Json.Printer
import Portal.Json.Reader
import Portal.Text.Basic

/-!
# Answers

What an answer of the server stands for: its payload, or an error. The status decides the kind of
error. The statuses 401, 403 and 404 say all there is to say; any other error takes its message from
the body.
-/

namespace Portal

/-- An answer as far as it matters: two of its headers, and its body as a text. -/
structure Answer where
  status : Nat
  contentType : Option String
  retryAfter : Option String
  body : String

/-- Whether a content type starts like that of JSON. -/
def isJsonContentType (contentType : String) : Bool :=
  "application/json".toList.isPrefixOf (Text.lower (Text.trim contentType.toList))

/-- An integer below `2 ^ 64` in decimal digits, with or without a plus sign. -/
def wholeNumber? (s : List Char) : Option Nat :=
  let ds := match s with
    | '+' :: ds => ds
    | ds => ds
  if ds.isEmpty || !ds.all Text.isDigit then none
  else
    let n := Text.digitsVal ds
    if n < 18446744073709551616 then some n else none

namespace Answer

def isJson (a : Answer) : Bool :=
  a.contentType.any isJsonContentType

/-- The value of a JSON body. What cannot be read counts as no value. -/
def value? (a : Answer) : Option Json :=
  if a.isJson then (Json.parse a.body).toOption else none

def details (a : Answer) : Details :=
  a.value?.bind Json.members?

/-- The text under `error` in the body, or the bare status. -/
def errorMessage (a : Answer) : String :=
  ((a.value?.bind (Json.get? "error")).bind Json.string?).getD s!"HTTP {a.status}"

/-- Seconds where the header has them, and its text otherwise. -/
def retryValue (retryAfter : String) : Json :=
  let s := Text.trim retryAfter.toList
  match wholeNumber? s with
  | some n => .int n
  | none => .string (.ofList s)

/-- The details with the time after which to try again. -/
def rateLimitDetails (a : Answer) : Details :=
  match a.retryAfter with
  | none => a.details
  | some r => some ((a.details.getD []).insert "retry_after" (retryValue r))

/-- What a status of 400 or more stands for. -/
def error (a : Answer) : PortalError :=
  if a.status = 401 then .authentication "Authentication failed" a.details
  else if a.status = 403 then .authorization "Access denied" a.details
  else if a.status = 404 then .notFound "Resource not found" a.details
  else if a.status = 400 ∨ a.status = 422 then .validation a.status a.errorMessage a.details
  else if a.status = 429 then .rateLimit a.errorMessage a.rateLimitDetails
  else if 500 ≤ a.status ∧ a.status < 600 then .server a.status a.errorMessage a.details
  else .api a.status a.errorMessage a.details

/-- A body that is not JSON is wrapped as data. -/
def success (a : Answer) : Except PortalError Json :=
  if a.isJson then
    (Json.parse a.body).mapError fun m => .decode s!"invalid JSON body (HTTP {a.status}): {m}"
  else .ok (.object [("data", .string a.body)])

def payload (a : Answer) : Except PortalError Json :=
  if a.status < 400 then a.success else .error a.error

end Answer

end Portal

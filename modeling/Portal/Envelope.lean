import Portal.Error
import Portal.Wire.Record

/-!
# Envelopes

Most answers wrap what they carry: an object whose member `data` is the payload. What does not fit
is a decode error that names what was expected.
-/

namespace Portal

structure ApiResponse (α : Type) where
  success : Bool
  data : α
  error : Option String
  message : Option String

/-- An answer that does not say otherwise is a success. -/
def ApiResponse.wire (data : Wire α) : Wire (ApiResponse α) :=
  .record "ApiResponse" ApiResponse.mk <|
    .defaulted "success" .bool true (·.success) <|
    .required "data" data (·.data) <|
    .omissible "error" .string (·.error) <|
    .omissible "message" .string (·.message) .done

namespace Wire

/-- Reads `v` as what `what` says. -/
def decodeAs (w : Wire α) (what : String) (v : Json) : Except PortalError α :=
  (w.decode v).mapError fun f => .decode s!"{what}: {f.message}"

end Wire

namespace Envelope

def kindName : Json → String
  | .null => "null"
  | .bool _ => "a boolean"
  | .int _ | .float _ => "a number"
  | .string _ => "a string"
  | .array _ => "an array"
  | .object _ => "an object"

/-- The member `data`, if there is one. -/
def data? (what : String) : Json → Except PortalError (Option Json)
  | .object ms => .ok (Members.get? ms "data")
  | v => .error (.decode s!"{what}: expected a JSON object, got {kindName v}")

/-- What the envelope carries. -/
def payload (w : Wire α) (what : String) (v : Json) : Except PortalError α := do
  match ← data? what v with
  | some data => w.decodeAs what data
  | none => throw (.decode s!"{what}: missing `data` field")

/-- What the envelope carries. It may be missing or `null`. -/
def payloadOr (default : α) (w : Wire α) (what : String) (v : Json) : Except PortalError α := do
  match ← data? what v with
  | none | some .null => return default
  | some data => w.decodeAs what data

end Envelope

def ApiResponse.ofJson (v : Json) : Except PortalError (ApiResponse Json) :=
  (ApiResponse.wire .any).decodeAs "response envelope" v

end Portal

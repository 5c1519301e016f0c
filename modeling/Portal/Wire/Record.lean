import Portal.Wire.Basic

/-!
# Choices and records

A choice is one of a few names, and a record is described once, by its fields in order.
-/

namespace Portal.Wire

/-!
## Choices by name

One of a few names stands for each value. As an object, the name is the key of its only member,
which is `null`.
-/

def variant (names : List (String × α)) (name : String) : Except Fault α :=
  match names.lookup name with
  | some a => .ok a
  | none => .error (.unknownVariant name (names.map (·.1)))

/-- `names` has every name that is read, and `write` gives the one that is written. -/
def choice (names : List (String × α)) (write : α → String) : Wire α where
  decode
    | .string s => variant names s
    | .object [(name, v)] => do
      let a ← variant names name
      match v with
      | .null => return a
      | v => throw (.wrongType (kindOf v) "unit")
    | .object _ => .error (.wrongValue .map "map with a single key")
    | v => .error (.wrongType (kindOf v) "string or map")
  encode a := .string (write a)

end Portal.Wire

namespace Portal

/-!
## Records

The description says how a record is read from an object, how it is read from an array, and how it is
written.

From an object the members are looked at in the order of their keys, and the first one of a wrong
shape is reported; then the fields that are missing, in the order of the description. Members that
are no fields do not matter.
-/

/-- A field with values in `α` of a record `ρ`. -/
structure Field (ρ α : Type) where
  name : String
  wire : Wire α
  /-- What stands for a field that is not there. Without it the field is required. -/
  absent : Option α
  get : ρ → α
  /-- Whether a value is written at all. -/
  isWritten : α → Bool

/-- The fields that a function `κ` still needs to give a `ρ`. -/
inductive Fields (ρ : Type) : Type → Type 1
  | done : Fields ρ ρ
  | cons {α κ : Type} (field : Field ρ α) (rest : Fields ρ κ) : Fields ρ (α → κ)

namespace Fields

def required (name : String) (wire : Wire α) (get : ρ → α) (rest : Fields ρ κ) :
    Fields ρ (α → κ) :=
  .cons ⟨name, wire, none, get, fun _ => true⟩ rest

/-- A field that may be missing or `null`, and is written as `null` then. -/
def optional (name : String) (wire : Wire α) (get : ρ → Option α) (rest : Fields ρ κ) :
    Fields ρ (Option α → κ) :=
  .cons ⟨name, wire.option, some none, get, fun _ => true⟩ rest

/-- A field that may be missing or `null`, and is left out then. -/
def omissible (name : String) (wire : Wire α) (get : ρ → Option α) (rest : Fields ρ κ) :
    Fields ρ (Option α → κ) :=
  .cons ⟨name, wire.option, some none, get, Option.isSome⟩ rest

/-- A field that may be missing and is `value` then. -/
def defaulted (name : String) (wire : Wire α) (value : α) (get : ρ → α) (rest : Fields ρ κ) :
    Fields ρ (α → κ) :=
  .cons ⟨name, wire, some value, get, fun _ => true⟩ rest

def size : Fields ρ κ → Nat
  | .done => 0
  | .cons _ rest => rest.size + 1

def names : Fields ρ κ → List String
  | .done => []
  | .cons field rest => field.name :: rest.names

/-- Whether a member can be read, if it is a field. -/
def checkMember (key : String) (v : Json) : Fields ρ κ → Except Wire.Fault Unit
  | .done => .ok ()
  | .cons field rest =>
    if field.name = key then (field.wire.decode v).map fun _ => () else rest.checkMember key v

def checkMembers (fields : Fields ρ κ) : Members → Except Wire.Fault Unit
  | [] => .ok ()
  | (k, v) :: ms => do
    fields.checkMember k v
    checkMembers fields ms

def ofMember (field : Field ρ α) : Option Json → Except Wire.Fault α
  | some v => field.wire.decode v
  | none =>
    match field.absent with
    | some a => .ok a
    | none => .error (.missing field.name)

def ofMembers (ms : Members) : Fields ρ κ → κ → Except Wire.Fault ρ
  | .done, r => .ok r
  | .cons field rest, make => do
    let a ← ofMember field (Members.get? ms field.name)
    rest.ofMembers ms (make a)

/-- What stands for the field number `index` in an array that has ended. -/
def atEnd (record : String) (size index : Nat) (field : Field ρ α) : Except Wire.Fault α :=
  match field.absent with
  | some a => .ok a
  | none => .error (.tooShort index record size)

/-- The record that an array starts with, and the items after it. -/
def ofItems (record : String) (size : Nat) :
    Nat → List Json → Fields ρ κ → κ → Except Wire.Fault (ρ × List Json)
  | _, items, .done, r => .ok (r, items)
  | index, [], .cons field rest, make => do
    let a ← atEnd record size index field
    rest.ofItems record size (index + 1) [] (make a)
  | index, v :: items, .cons field rest, make => do
    let a ← field.wire.decode v
    rest.ofItems record size (index + 1) items (make a)

def toMembers (r : ρ) : Fields ρ κ → List (String × Json)
  | .done => []
  | .cons field rest =>
    let a := field.get r
    if field.isWritten a then (field.name, field.wire.encode a) :: rest.toMembers r
    else rest.toMembers r

end Fields

/-- `make` builds the record from its fields in order. -/
def Wire.record (name : String) (make : κ) (fields : Fields ρ κ) : Wire ρ where
  decode
    | .object ms => do
      fields.checkMembers ms
      fields.ofMembers ms make
    | .array items => do
      let (r, left) ← fields.ofItems name fields.size 0 items make
      if left.isEmpty then return r else throw (.tooLong items.length)
    | v => .error (.wrongType (Wire.kindOf v) s!"struct {name}")
  encode r := .ofMembers (fields.toMembers r)

end Portal

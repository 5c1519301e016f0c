import Portal.Json.Printer
import Portal.Text.Quoted
import Portal.Time.Reader

/-!
# Values on the wire

How a type is read from JSON and written to it.
-/

namespace Portal.Wire

/-! ## Why a JSON value has the wrong shape -/

/-- What a message says of a value. -/
inductive Kind
  | null
  | boolean (b : Bool)
  | integer (n : Int)
  | float (x : Number.Binary64)
  | string (s : String)
  | sequence
  | map

def kindOf : Json → Kind
  | .null => .null
  | .bool b => .boolean b
  | .int n => .integer n
  | .float x => .float x
  | .string s => .string s
  | .array _ => .sequence
  | .object _ => .map

def Kind.text : Kind → String
  | .null => "null"
  | .boolean b => s!"boolean `{b}`"
  | .integer n => s!"integer `{n}`"
  | .float x => s!"floating point `{Json.floatText x}`"
  | .string s => s!"string {Text.quoted s}"
  | .sequence => "sequence"
  | .map => "map"

inductive Fault
  | wrongType (found : Kind) (expected : String)
  | wrongValue (found : Kind) (expected : String)
  | missing (field : String)
  /-- An array that ends before the required field number `length` of `size`. -/
  | tooShort (length : Nat) (record : String) (size : Nat)
  | tooLong (length : Nat)
  | unknownVariant (name : String) (known : List String)
  | notATime (fault : Timestamp.Fault)
  | notAFacetValue (found : Json)

/-- The names, each between backquotes. -/
def choiceText (names : List String) : String :=
  match names with
  | [a] => s!"`{a}`"
  | [a, b] => s!"`{a}` or `{b}`"
  | names => "one of " ++ ", ".intercalate (names.map fun a => s!"`{a}`")

def Fault.message : Fault → String
  | .wrongType found expected => s!"invalid type: {found.text}, expected {expected}"
  | .wrongValue found expected => s!"invalid value: {found.text}, expected {expected}"
  | .missing field => s!"missing field `{field}`"
  | .tooShort length record size =>
    s!"invalid length {length}, expected struct {record} with {size} elements"
  | .tooLong length => s!"invalid length {length}, expected fewer elements in array"
  | .unknownVariant name known => s!"unknown variant `{name}`, expected {choiceText known}"
  | .notATime fault => fault.message
  | .notAFacetValue found => s!"facet value must be a string or number, got {found.text}"

end Portal.Wire

namespace Portal

/-! ## Simple types, lists and options -/

structure Wire (α : Type) where
  decode : Json → Except Wire.Fault α
  encode : α → Json

namespace Wire

def string : Wire String where
  decode
    | .string s => .ok s
    | v => .error (.wrongType (kindOf v) "a string")
  encode := .string

def bool : Wire Bool where
  decode
    | .bool b => .ok b
    | v => .error (.wrongType (kindOf v) "a boolean")
  encode := .bool

/-- What a value is taken for that is no count. -/
def notCount : Json → Fault
  | .int n => .wrongValue (.integer n) "u64"
  | v => .wrongType (kindOf v) "u64"

/-- An integer from 0 to below `2 ^ 64`. -/
def count : Wire UInt64 where
  decode v :=
    match v.count? with
    | some n => .ok n
    | none => .error (notCount v)
  encode n := .int n.toNat

/-- Integers are read as the nearest double. -/
def real : Wire Number.Binary64 where
  decode
    | .float x => .ok x
    | .int n => .ok (.ofInt n)
    | v => .error (.wrongType (kindOf v) "f64")
  encode := .float

def time : Wire Timestamp where
  decode
    | .string s => (Timestamp.parse s).mapError .notATime
    | v => .error (.wrongType (kindOf v) "an RFC 3339 formatted date and time string")
  encode t := .string t.text

def any : Wire Json where
  decode := .ok
  encode := id

def members : Wire Members where
  decode
    | .object ms => .ok ms
    | v => .error (.wrongType (kindOf v) "a map")
  encode := .object

/-- Each item in its place, or the fault of the first that has one. -/
def decodeItems (w : Wire α) : List Json → Except Fault (List α)
  | [] => .ok []
  | v :: vs => do
    let a ← w.decode v
    let as ← decodeItems w vs
    return a :: as

def list (w : Wire α) : Wire (List α) where
  decode
    | .array items => decodeItems w items
    | v => .error (.wrongType (kindOf v) "a sequence")
  encode as := .array (as.map w.encode)

/-- Each member's value under its key. -/
def decodeEntries (w : Wire α) : List (String × Json) → Except Fault (List (String × α))
  | [] => .ok []
  | (k, v) :: ms => do
    let a ← w.decode v
    let as ← decodeEntries w ms
    return (k, a) :: as

/-- An object whose members are all of one type. -/
def table (w : Wire α) : Wire (List (String × α)) where
  decode
    | .object ms => decodeEntries w ms
    | v => .error (.wrongType (kindOf v) "a map")
  encode as := .object (as.map fun (k, a) => (k, w.encode a))

/-- `null` stands for nothing. -/
def option (w : Wire α) : Wire (Option α) where
  decode
    | .null => .ok none
    | v => (w.decode v).map some
  encode
    | none => .null
    | some a => w.encode a

end Wire

end Portal

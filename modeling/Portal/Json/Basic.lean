import Portal.Number.Binary64

/-!
# JSON values

Objects are kept as members in the order of their keys, each key once. Numbers are integers where
the text had one that fits in 64 bits, with or without a sign, and doubles otherwise.
-/

namespace Portal

inductive Json
  | null
  | bool (b : Bool)
  | int (n : Int)
  | float (x : Number.Binary64)
  | string (s : String)
  | array (items : List Json)
  | object (members : List (String × Json))
  deriving Inhabited

abbrev Members := List (String × Json)

namespace Members

def get? (ms : Members) (key : String) : Option Json :=
  ms.lookup key

/-- Puts the member at its place, instead of one with the same key. -/
def insert (key : String) (value : Json) : Members → Members
  | [] => [(key, value)]
  | (k, v) :: ms =>
    if key = k then (key, value) :: ms
    else if key < k then (key, value) :: (k, v) :: ms
    else (k, v) :: insert key value ms

/-- Of members with the same key the last one stays. -/
def ofList (ms : List (String × Json)) : Members :=
  ms.foldl (fun acc (k, v) => insert k v acc) []

end Members

namespace Json

def ofMembers (ms : List (String × Json)) : Json :=
  .object (Members.ofList ms)

def ofOption (f : α → Json) : Option α → Json
  | none => .null
  | some a => f a

/-- The member `key`. A value that is no object has none. -/
def get? (key : String) : Json → Option Json
  | .object ms => Members.get? ms key
  | _ => none

def string? : Json → Option String
  | .string s => some s
  | _ => none

/-- An integer from 0 to below `2 ^ 64`. -/
def count? : Json → Option UInt64
  | .int n => if 0 ≤ n ∧ n < 18446744073709551616 then some (UInt64.ofNat n.toNat) else none
  | _ => none

def members? : Json → Option Members
  | .object ms => some ms
  | _ => none

end Json

end Portal

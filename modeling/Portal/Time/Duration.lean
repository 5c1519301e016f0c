import Portal.Number.Binary64
import Portal.Text.Basic

/-!
# Durations

Whole nanoseconds, below `2 ^ 64` seconds.
-/

namespace Portal

structure Duration where
  nanos : Nat
  lt_bound : nanos < 18446744073709551616000000000
  deriving DecidableEq

namespace Duration

def ofNanos? (n : Nat) : Option Duration :=
  if h : n < 18446744073709551616000000000 then some ⟨n, h⟩ else none

def ofSeconds (s : UInt32) : Duration :=
  ⟨s.toNat * 1000000000, by have := s.toNat_lt; omega⟩

instance : Inhabited Duration :=
  ⟨ofSeconds 0⟩

instance : LE Duration :=
  ⟨fun a b => a.nanos ≤ b.nanos⟩

instance : DecidableRel (fun a b : Duration => a ≤ b) :=
  fun a b => inferInstanceAs (Decidable (a.nanos ≤ b.nanos))

instance : Min Duration := minOfLe
instance : Max Duration := maxOfLe

/-- Time that passed since `b`, or none if `b` is later. -/
def since (a b : Duration) : Duration :=
  ⟨a.nanos - b.nanos, Nat.lt_of_le_of_lt (Nat.sub_le ..) a.lt_bound⟩

/-- The longest duration in place of a sum that is longer. -/
def plus (a b : Duration) : Duration :=
  (ofNanos? (a.nanos + b.nanos)).getD ⟨18446744073709551615999999999, by decide⟩

def wholeSeconds (d : Duration) : Nat :=
  d.nanos / 1000000000

def subsecNanos (d : Duration) : Nat :=
  d.nanos % 1000000000

/-- Seconds as a double: the whole seconds and the rest are rounded apart, then their sum. -/
def toSeconds (d : Duration) : Rat :=
  Number.nearest (Number.nearest d.wholeSeconds + Number.nearest (d.subsecNanos / 1000000000))

/-- The nearest whole number of nanoseconds, unless it is out of bounds. -/
def ofSeconds? (x : Rat) : Option Duration :=
  if x < 0 then none else ofNanos? (Number.halfEven (x * 1000000000)).toNat

/-- `n` with `places` digits, cut after the last that is not zero. -/
def fractionText (places n : Nat) : List Char :=
  Text.dropEndWhile (· == '0') (Text.paddedDigits places n)

def unitText (whole fraction places : Nat) (unit : List Char) : String :=
  let part := fractionText places fraction
  .ofList (Nat.toDigits 10 whole ++ (if part.isEmpty then [] else '.' :: part) ++ unit)

/-- In the largest unit of which there is at least one. -/
def text (d : Duration) : String :=
  if 1000000000 ≤ d.nanos then unitText d.wholeSeconds d.subsecNanos 9 ['s']
  else if 1000000 ≤ d.nanos then unitText (d.nanos / 1000000) (d.nanos % 1000000) 6 ['m', 's']
  else if 1000 ≤ d.nanos then unitText (d.nanos / 1000) (d.nanos % 1000) 3 ['µ', 's']
  else unitText d.nanos 0 0 ['n', 's']

end Duration

end Portal

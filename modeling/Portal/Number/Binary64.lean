/-!
# Binary floating point numbers

The finite double-precision numbers: a sign and a magnitude that rounding leaves as it is. The sign
is there for zero too.
-/

namespace Portal.Number

/-!
## Rounding to nearest

To the nearest integer and to the nearest binary floating point number of 53 digits. A tie goes to
the even neighbour. All arithmetic is exact, on rationals.
-/

def halfEven (x : Rat) : Int :=
  let k := x.floor
  let part := x - k
  if part < 1 / 2 then k else if 1 / 2 < part then k + 1 else k + k % 2

/-- The greatest `e` with `2 ^ e ≤ x`, for a positive `x`. The lengths of numerator and denominator
leave two candidates. -/
def log2 (x : Rat) : Int :=
  let e : Int := x.num.natAbs.log2 - x.den.log2
  if (2 : Rat) ^ e ≤ x then e else e - 1

/-- The distance of neighbouring 53-digit numbers at `x`. It stops shrinking at `2 ^ -1074`. -/
def ulp (x : Rat) : Rat :=
  (2 : Rat) ^ (max (log2 x) (-1022) - 52)

/-- The nearest 53-digit number, with no bound above. -/
def nearest (x : Rat) : Rat :=
  halfEven (x / ulp x) * ulp x

/-! ## Doubles -/

/-- No double is as large as this. -/
def limit : Rat :=
  (2 : Rat) ^ (1024 : Int)

structure Binary64 where
  negative : Bool
  magnitude : Rat
  is_double : 0 ≤ magnitude ∧ magnitude < limit ∧ nearest magnitude = magnitude
  deriving DecidableEq

namespace Binary64

/-- `none` if the nearest double would be `limit` or more. -/
def round (negative : Bool) (magnitude : Rat) : Option Binary64 :=
  let m := nearest magnitude
  if h : 0 ≤ m ∧ m < limit ∧ nearest m = m then some ⟨negative, m, h⟩ else none

def zero (negative : Bool) : Binary64 :=
  ⟨negative, 0, by decide +kernel⟩

instance : Inhabited Binary64 :=
  ⟨zero false⟩

def value (x : Binary64) : Rat :=
  if x.negative then -x.magnitude else x.magnitude

/-- The nearest double. Integers that large that there is none become zero. -/
def ofInt (n : Int) : Binary64 :=
  (round (decide (n < 0)) n.natAbs).getD (zero false)

end Binary64

end Portal.Number

import Portal.Number.Reader

/-!
# Writing a double

Its shortest digits with a point among them, or with one digit before the point and an exponent.
-/

namespace Portal.Number

/-!
## Shortest digits

The fewest decimal digits that read back as the same double, and of those the nearest to it.
-/

/-- The greatest `e` with `10 ^ e ≤ x`, for a positive `x`. -/
def log10 (x : Rat) : Int :=
  if 1 ≤ x then decimalLength x.floor.toNat - 1
  else
    let e : Int := -decimalLength (1 / x).floor.toNat
    if pow10 (e + 1) ≤ x then e + 1 else e

/-- What rounds to a double: the numbers from `low` to `high`, and the two ends if `closed`. -/
structure Basin where
  low : Rat
  high : Rat
  closed : Bool

/-- Halfway to both neighbours. Below a power of two the doubles lie twice as dense. -/
def basin (x : Rat) : Basin :=
  let gap := ulp x
  let below := if x = (2 : Rat) ^ log2 x ∧ -1022 < log2 x then gap / 2 else gap
  ⟨x - below / 2, x + gap / 2, (x / gap).num % 2 == 0⟩

def Basin.contains (b : Basin) (y : Rat) : Bool :=
  if b.closed then b.low ≤ y && y ≤ b.high else b.low < y && y < b.high

/-- The point of the grid of multiples of `unit` in `b` that is nearest to `x`; the even one of
two. -/
def Basin.nearestOn (b : Basin) (x unit : Rat) : Option Nat :=
  let k := (x / unit).floor.toNat
  let lower := b.contains (k * unit)
  let upper := b.contains ((k + 1 : Nat) * unit)
  if lower && upper then some (halfEven (x / unit)).toNat
  else if lower then some k
  else if upper then some (k + 1)
  else none

/-- The first grid that has a point in `b`, from `fuel` digits fewer than 17 on. -/
def Basin.shortest (b : Basin) (x : Rat) (order : Int) : Nat → Nat × Int
  | 0 => ((halfEven (x / pow10 (order - 16))).toNat, order - 16)
  | fuel + 1 =>
    let e := order - 16 + (fuel + 1)
    match b.nearestOn x (pow10 e) with
    | some k => (k, e)
    | none => b.shortest x order fuel

def dropZeros : Nat → Nat × Int → Nat × Int
  | 0, p => p
  | fuel + 1, (k, e) => if k % 10 = 0 ∧ k ≠ 0 then dropZeros fuel (k / 10, e + 1) else (k, e)

/-- Digits and exponent of a positive double. -/
def shortest (x : Rat) : Nat × Int :=
  dropZeros 17 ((basin x).shortest x (log10 x) 16)

/-! ## Layout -/

/-- Numbers from `10 ^ low` to below `10 ^ high` are written without an exponent. -/
structure Layout where
  low : Int
  high : Int

/-- There is always a digit on both sides of the point. An exponent always has a sign, and a lone
digit before it has no point. -/
def Layout.write (l : Layout) (digits : Nat) (exponent : Int) : List Char :=
  let ds := Nat.toDigits 10 digits
  let n : Int := ds.length
  let order := n + exponent - 1
  if l.low ≤ order ∧ order < l.high then
    if order < 0 then ['0', '.'] ++ List.replicate (-1 - order).toNat '0' ++ ds
    else if 0 ≤ exponent then ds ++ List.replicate exponent.toNat '0' ++ ['.', '0']
    else ds.take (order + 1).toNat ++ ['.'] ++ ds.drop (order + 1).toNat
  else
    let mantissa := match ds with
      | d :: r :: rest => d :: '.' :: r :: rest
      | ds => ds
    let sign := if order < 0 then '-' else '+'
    mantissa ++ ['e', sign] ++ Nat.toDigits 10 order.natAbs

def Layout.writeDouble (l : Layout) (x : Binary64) : String :=
  let sign := if x.negative then ['-'] else []
  let body :=
    if x.magnitude = 0 then ['0', '.', '0']
    else
      let (digits, exponent) := shortest x.magnitude
      l.write digits exponent
  .ofList (sign ++ body)

end Portal.Number

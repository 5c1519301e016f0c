import Portal.Number.Binary64
import Portal.Text.Basic

/-!
# Numbers in plain text

Digits with an optional point and exponent, or a word for what no double is.
-/

namespace Portal.Number

/-!
## Decimal numbers as doubles

`digits * 10 ^ exponent`, rounded once. An exponent of any size costs nothing: far outside the range
of doubles the answer is known without the power.
-/

structure Decimal where
  negative : Bool
  digits : Nat
  exponent : Int

def decimalLength (n : Nat) : Nat :=
  (Nat.toDigits 10 n).length

def pow10 (e : Int) : Rat :=
  (10 : Rat) ^ e

/-- `none` if the number is too large for a double. -/
def Decimal.toBinary64? (d : Decimal) : Option Binary64 :=
  let order := decimalLength d.digits + d.exponent
  if d.digits = 0 ∨ order < -400 then some (Binary64.zero d.negative)
  else if 400 < order then none
  else Binary64.round d.negative (d.digits * pow10 d.exponent)

/-! ## Texts -/

inductive Reading
  | finite (x : Binary64)
  | infinite
  | notANumber

namespace Reading

open Text (isDigit digitsVal lower)

/-- A sign, and what follows it. -/
def signed (s : List Char) : Bool × List Char :=
  match s with
  | '-' :: s => (true, s)
  | '+' :: s => (false, s)
  | s => (false, s)

/-- An exponent after its `e`, or nothing. -/
def exponent? (s : List Char) : Option Int :=
  match s with
  | [] => some 0
  | c :: s =>
    if c = 'e' ∨ c = 'E' then
      let (negative, ds) := signed s
      if ds.isEmpty || !ds.all isDigit then none
      else some (if negative then -digitsVal ds else digitsVal ds)
    else none

/-- Digits on at least one side of the point. -/
def decimal? (negative : Bool) (s : List Char) : Option Decimal :=
  let whole := s.takeWhile isDigit
  let (part, rest) := match s.drop whole.length with
    | '.' :: s => (s.takeWhile isDigit, s.dropWhile isDigit)
    | s => ([], s)
  if whole.isEmpty && part.isEmpty then none
  else (exponent? rest).map fun e => ⟨negative, digitsVal (whole ++ part), e - part.length⟩

def ofChars? (s : List Char) : Option Reading :=
  let (negative, s) := signed s
  match String.ofList (lower s) with
  | "inf" | "infinity" => some .infinite
  | "nan" => some .notANumber
  | _ =>
    (decimal? negative s).map fun d =>
      match d.toBinary64? with
      | some x => .finite x
      | none => .infinite

end Reading

end Portal.Number

import Portal.Json.Basic
import Portal.Json.Fault
import Portal.Number.Reader
import Portal.Text.Basic

/-!
# Numbers in JSON text

The digits of a number are gathered while they fit in 64 bits. Those that follow only raise the
exponent if they stand before the point, and do not count after it. The double then comes from two
rounded steps: the gathered digits, and their product or quotient with a power of ten.
-/

namespace Portal.Json

open Text (isDigit digitVal)
open Number (Binary64 nearest pow10)

/-- What a text starts with, and what follows. -/
structure Gathered where
  value : Nat
  count : Nat
  rest : List Char

/-- Appends digits to `n` as long as the number stays below `bound`. -/
def gather (bound n : Nat) : List Char → Gathered
  | [] => ⟨n, 0, []⟩
  | c :: s =>
    let m := 10 * n + digitVal c
    if isDigit c ∧ m < bound then
      let g := gather bound m s
      ⟨g.value, g.count + 1, g.rest⟩
    else ⟨n, 0, c :: s⟩

def startsWithDigit : List Char → Bool
  | [] => false
  | c :: _ => isDigit c

/-- `x / 10 ^ k` in steps that a double can hold. -/
def scaleDown (x : Rat) (k : Nat) : Rat :=
  if x = 0 then 0
  else if k ≤ 308 then nearest (x / nearest (pow10 k))
  else scaleDown (nearest (x / nearest (pow10 308))) (k - 308)
termination_by k

/-- `none` if the number is too large for a double. -/
def scaled? (negative : Bool) (significand : Nat) (exponent : Int) : Option Binary64 :=
  let x := nearest significand
  if exponent < 0 then Binary64.round negative (scaleDown x exponent.natAbs)
  else if exponent ≤ 308 then Binary64.round negative (x * nearest (pow10 exponent))
  else if significand = 0 then some (Binary64.zero negative)
  else none

def scaledFloat (negative : Bool) (significand : Nat) (exponent : Int) (rest : List Char) :
    Except Fault (Json × List Char) :=
  match scaled? negative significand exponent with
  | some x => .ok (.float x, rest)
  | none => .error ⟨.numberOutOfRange, rest, 0⟩

/-- The digits of an exponent. One that does not fit in 32 bits decides by itself. -/
def exponentDigits (negative : Bool) (significand : Nat) (exponent : Int) (down : Bool)
    (s : List Char) : Except Fault (Json × List Char) :=
  if s.isEmpty then .error ⟨.eofValue, s, 0⟩
  else if !startsWithDigit s then .error ⟨.invalidNumber, s, 1⟩
  else
    let g := gather 2147483648 0 s
    if startsWithDigit g.rest then
      if significand ≠ 0 ∧ !down then .error ⟨.numberOutOfRange, g.rest.drop 1, 0⟩
      else .ok (.float (Binary64.zero negative), g.rest.dropWhile isDigit)
    else
      let e : Int := if down then -g.value else g.value
      scaledFloat negative significand (exponent + e) g.rest

/-- What follows the `e` of an exponent. -/
def exponentPart (negative : Bool) (significand : Nat) (exponent : Int) (s : List Char) :
    Except Fault (Json × List Char) :=
  match s with
  | '+' :: s => exponentDigits negative significand exponent false s
  | '-' :: s => exponentDigits negative significand exponent true s
  | s => exponentDigits negative significand exponent false s

/-- What follows the last digit before the exponent. -/
def afterDigits (negative : Bool) (significand : Nat) (exponent : Int) (s : List Char) :
    Except Fault (Json × List Char) :=
  match s with
  | 'e' :: s | 'E' :: s => exponentPart negative significand exponent s
  | s => scaledFloat negative significand exponent s

/-- What follows the point. -/
def fractionPart (negative : Bool) (significand : Nat) (exponent : Int) (s : List Char) :
    Except Fault (Json × List Char) :=
  if s.isEmpty then .error ⟨.eofValue, s, 0⟩
  else if !startsWithDigit s then .error ⟨.invalidNumber, s, 1⟩
  else
    let g := gather 18446744073709551616 significand s
    afterDigits negative g.value (exponent - g.count) (g.rest.dropWhile isDigit)

/-- An integer if it fits in 64 bits. Zero with a sign does not. -/
def wholeNumber (negative : Bool) (significand : Nat) : Json :=
  if !negative then .int significand
  else if 0 < significand ∧ significand ≤ 9223372036854775808 then .int (-significand)
  else
    .float ((Binary64.round true (nearest significand)).getD (Binary64.zero true))

def startsWithExponent : List Char → Bool
  | 'e' :: _ | 'E' :: _ => true
  | _ => false

/-- What follows the digits before the point, of which `dropped` were not gathered. -/
def afterWhole (negative : Bool) (significand dropped : Nat) (s : List Char) :
    Except Fault (Json × List Char) :=
  match s with
  | '.' :: s => fractionPart negative significand dropped s
  | s =>
    if startsWithExponent s || dropped ≠ 0 then afterDigits negative significand dropped s
    else .ok (wholeNumber negative significand, s)

/-- What follows the sign. Zero has no digits after it. -/
def unsignedNumber (negative : Bool) (s : List Char) : Except Fault (Json × List Char) :=
  match s with
  | [] => .error ⟨.eofValue, s, 0⟩
  | c :: rest =>
    if c = '0' then
      if startsWithDigit rest then .error ⟨.invalidNumber, rest, 1⟩
      else afterWhole negative 0 0 rest
    else if !isDigit c then .error ⟨.invalidNumber, s, 1⟩
    else
      let g := gather 18446744073709551616 (digitVal c) rest
      let dropped := g.rest.takeWhile isDigit
      afterWhole negative g.value dropped.length (g.rest.dropWhile isDigit)

def number (s : List Char) : Except Fault (Json × List Char) :=
  match s with
  | '-' :: s => unsignedNumber true s
  | s => unsignedNumber false s

/-! ## What is left is shorter -/

theorem gather_length_le (bound n : Nat) (s : List Char) :
    (gather bound n s).rest.length ≤ s.length := by
  induction s generalizing n with
  | nil => simp [gather]
  | cons c s ih =>
    simp only [gather]
    split
    · exact Nat.le_succ_of_le (ih _)
    · exact Nat.le_refl _

theorem gather_dropWhile_length_le (bound n : Nat) (p : Char → Bool) (s : List Char) :
    ((gather bound n s).rest.dropWhile p).length ≤ s.length :=
  Nat.le_trans (List.dropWhile_suffix p).length_le (gather_length_le bound n s)

variable {negative down : Bool} {n k : Nat} {e : Int} {s r : List Char} {v : Json}

theorem scaledFloat_rest (h : scaledFloat negative n e s = .ok (v, r)) : r = s := by
  unfold scaledFloat at h
  split at h <;> simp_all

theorem exponentDigits_length_le (h : exponentDigits negative n e down s = .ok (v, r)) :
    r.length ≤ s.length := by
  simp only [exponentDigits] at h
  split at h; · simp at h
  split at h; · simp at h
  split at h
  · split at h
    · simp at h
    · simp only [Except.ok.injEq, Prod.mk.injEq] at h
      exact h.2 ▸ gather_dropWhile_length_le ..
  · exact scaledFloat_rest h ▸ gather_length_le ..

theorem exponentPart_length_le (h : exponentPart negative n e s = .ok (v, r)) :
    r.length ≤ s.length := by
  unfold exponentPart at h
  split at h
  · exact Nat.le_succ_of_le (exponentDigits_length_le h)
  · exact Nat.le_succ_of_le (exponentDigits_length_le h)
  · exact exponentDigits_length_le h

theorem afterDigits_length_le (h : afterDigits negative n e s = .ok (v, r)) :
    r.length ≤ s.length := by
  unfold afterDigits at h
  split at h
  · exact Nat.le_succ_of_le (exponentPart_length_le h)
  · exact Nat.le_succ_of_le (exponentPart_length_le h)
  · exact Nat.le_of_eq (congrArg _ (scaledFloat_rest h))

theorem fractionPart_length_le (h : fractionPart negative n e s = .ok (v, r)) :
    r.length ≤ s.length := by
  simp only [fractionPart] at h
  split at h; · simp at h
  split at h; · simp at h
  exact Nat.le_trans (afterDigits_length_le h) (gather_dropWhile_length_le ..)

theorem afterWhole_length_le (h : afterWhole negative n k s = .ok (v, r)) :
    r.length ≤ s.length := by
  unfold afterWhole at h
  split at h
  · exact Nat.le_succ_of_le (fractionPart_length_le h)
  · split at h
    · exact afterDigits_length_le h
    · simp only [Except.ok.injEq, Prod.mk.injEq] at h
      exact h.2 ▸ Nat.le_refl _

theorem unsignedNumber_length_lt (h : unsignedNumber negative s = .ok (v, r)) :
    r.length < s.length := by
  unfold unsignedNumber at h
  split at h; · simp at h
  refine Nat.lt_succ_of_le ?_
  split at h
  · split at h
    · simp at h
    · exact afterWhole_length_le h
  · split at h
    · simp at h
    · exact Nat.le_trans (afterWhole_length_le h) (gather_dropWhile_length_le ..)

theorem number_length_lt (h : number s = .ok (v, r)) : r.length < s.length := by
  unfold number at h
  split at h
  · exact Nat.lt_succ_of_lt (unsignedNumber_length_lt h)
  · exact unsignedNumber_length_lt h

end Portal.Json

import Portal.Text.Basic
import Portal.Time.Timestamp

/-!
# Reading a point in time

Date, separator, time of day and zone, with blanks allowed before every number, dash and colon and
around the zone. Nothing is looked at past the first fault, and what a field may hold is checked as
soon as it is read.
-/

namespace Portal.Timestamp

/-- Why a text is no point in time. -/
inductive Fault
  | tooShort
  | invalid
  | tooLong
  | outOfRange
  /-- The zone moves the time past the calendar's first or last day. -/
  | impossible
  deriving DecidableEq

def Fault.message : Fault → String
  | .tooShort => "premature end of input"
  | .invalid => "input contains invalid characters"
  | .tooLong => "trailing input"
  | .outOfRange => "input is out of range"
  | .impossible => "no possible date and time matching input"

namespace Reader

open Text (isDigit digitsVal digitVal trimStart isBlank lower)

/-- Up to `width` digits, at least one. -/
def digits (width : Nat) (s : List Char) : Except Fault (List Char × List Char) :=
  match s with
  | [] => .error .tooShort
  | c :: _ =>
    if isDigit c then
      let ds := (s.take width).takeWhile isDigit
      .ok (ds, s.drop ds.length)
    else .error .invalid

def number (width : Nat) (s : List Char) : Except Fault (Nat × List Char) := do
  let (ds, s) ← digits width s
  return (digitsVal ds, s)

def literal (c : Char) (s : List Char) : Except Fault (List Char) :=
  match s with
  | [] => .error .tooShort
  | d :: s => if d = c then .ok s else .error .invalid

/-- One or two digits after blanks, for a number from `low` to `high`. -/
def field (low high : Nat) (s : List Char) : Except Fault (Nat × List Char) := do
  let (n, s) ← number 2 (trimStart s)
  if low ≤ n ∧ n ≤ high then return (n, s) else throw .outOfRange

/-- Up to four digits, or any number of them after a sign. -/
def year (s : List Char) : Except Fault (Int × List Char) := do
  let (n, s) ← match trimStart s with
    | '-' :: s => do
      let (n, s) ← number s.length s
      pure (-(n : Int), s)
    | '+' :: s => do
      let (n, s) ← number s.length s
      pure ((n : Int), s)
    | s => do
      let (n, s) ← number 4 s
      pure ((n : Int), s)
  if -2147483648 ≤ n ∧ n ≤ 2147483647 then return (n, s) else throw .outOfRange

/-- A literal after blanks, and a field after it. -/
def fieldAfter (c : Char) (low high : Nat) (s : List Char) : Except Fault (Nat × List Char) := do
  let s ← literal c (trimStart s)
  field low high s

def separator (s : List Char) : Except Fault (List Char) :=
  match s with
  | [] => .error .tooShort
  | c :: s => if c = 'T' ∨ c = 't' ∨ c = ' ' then .ok s else .error .invalid

/-- Nanoseconds from a point and digits. The tenth digit and those after it do not count. -/
def fraction (s : List Char) : Except Fault (Nat × List Char) :=
  match s with
  | '.' :: s => do
    let (ds, s) ← digits 9 s
    return (digitsVal (ds ++ List.replicate (9 - ds.length) '0'), s.dropWhile isDigit)
  | s => .ok (0, s)

/-- Two digits next to each other. A lone character counts as two if it is not ASCII. -/
def digitPair (s : List Char) : Except Fault ((Nat × Nat) × List Char) :=
  match s with
  | [] => .error .tooShort
  | [c] => .error (if c.toNat < 128 then .tooShort else .invalid)
  | a :: b :: s =>
    if isDigit a && isDigit b then .ok ((digitVal a, digitVal b), s) else .error .invalid

/-- Minutes east of UTC that hours and minutes give. -/
def offset (s : List Char) : Except Fault (Nat × List Char) := do
  let ((h₁, h₂), s) ← digitPair s
  let ((m₁, m₂), s) ← digitPair (s.dropWhile fun c => c == ':' || isBlank c)
  if 6 ≤ m₁ then throw .outOfRange
  return (60 * (10 * h₁ + h₂) + (10 * m₁ + m₂), s)

/-- Minutes east of UTC. -/
def zone (s : List Char) : Except Fault (Int × List Char) :=
  if lower (s.take 3) = ['u', 't', 'c'] then .ok (0, s.drop 3)
  else
    match s with
    | [] => .error .tooShort
    | c :: s =>
      if c = 'Z' ∨ c = 'z' then .ok (0, s)
      else if c = '+' then do
        let (n, s) ← offset s
        return (n, s)
      else if c = '-' ∨ c = '\u2212' then do
        let (n, s) ← offset s
        return (-n, s)
      else .error .invalid

end Reader

open Reader in
/-- The parts are read first and make sense together afterwards. -/
def parse (text : String) : Except Fault Timestamp := do
  let (y, s) ← year text.toList
  let (month, s) ← fieldAfter '-' 1 12 s
  let (day, s) ← fieldAfter '-' 1 31 s
  let s ← separator s
  let (hour, s) ← field 0 23 s
  let (minute, s) ← fieldAfter ':' 0 59 s
  let (second, s) ← fieldAfter ':' 0 60 s
  let (nanos, s) ← fraction s
  let (east, s) ← zone (Text.trimStart s)
  if !(Text.trimStart s).isEmpty then throw .tooLong
  let some date := Date.of? y month day | throw .outOfRange
  if 1440 ≤ east.natAbs then throw .outOfRange
  let some t := ofLocal? date hour minute second nanos east | throw .impossible
  return t

end Portal.Timestamp

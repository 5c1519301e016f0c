/-!
# Texts as lists of characters

ASCII only where a rule says so, and blanks as Unicode counts them.
-/

namespace Portal.Text

/-!
## ASCII

Case, digits and hexadecimal digits. All else stays as it is: `É` has no lower case here.
-/

def lower (s : List Char) : List Char :=
  s.map Char.toLower

def isDigit (c : Char) : Bool :=
  '0' ≤ c && c ≤ '9'

def digitVal (c : Char) : Nat :=
  c.toNat - '0'.toNat

/-- The number that decimal digits write, the highest first. -/
def digitsVal (s : List Char) : Nat :=
  s.foldl (fun n c => 10 * n + digitVal c) 0

def hexVal? (c : Char) : Option Nat :=
  if isDigit c then some (digitVal c)
  else if 'a' ≤ c ∧ c ≤ 'f' then some (c.toNat - 'a'.toNat + 10)
  else if 'A' ≤ c ∧ c ≤ 'F' then some (c.toNat - 'A'.toNat + 10)
  else none

/-- `n` in base 10, with zeros in front if it has fewer digits than `width`. -/
def paddedDigits (width n : Nat) : List Char :=
  (Nat.toDigits 10 n).leftpad width '0'

/-- `n` in base 16 with small letters and no leading zeros. -/
def hex (n : Nat) : List Char :=
  Nat.toDigits 16 n

/-!
## Blank characters

The characters with Unicode's property `White_Space`, and texts without them at their ends.
-/

def isBlank (c : Char) : Bool :=
  let n := c.toNat
  (0x9 ≤ n && n ≤ 0xD) || n == 0x20 || n == 0x85 || n == 0xA0 || n == 0x1680 ||
    (0x2000 ≤ n && n ≤ 0x200A) || n == 0x2028 || n == 0x2029 || n == 0x202F || n == 0x205F ||
    n == 0x3000

/-- Drops the longest end whose characters all satisfy `p`. -/
def dropEndWhile (p : Char → Bool) (s : List Char) : List Char :=
  (s.reverse.dropWhile p).reverse

def trimStart (s : List Char) : List Char :=
  s.dropWhile isBlank

def trim (s : List Char) : List Char :=
  dropEndWhile isBlank (trimStart s)

/-- Nothing but blanks. -/
def isBlankText (s : String) : Bool :=
  s.toList.all isBlank

/-!
## Cutting a text

At the first of a character, at each of them, and at line ends.
-/

/-- The parts before and after the first `c`. -/
def splitOnce (c : Char) : List Char → Option (List Char × List Char)
  | [] => none
  | d :: s => if d = c then some ([], s) else (splitOnce c s).map fun (a, b) => (d :: a, b)

/-- The pieces between the occurrences of `c`: always one more than there are of them. -/
def pieces (c : Char) : List Char → List (List Char)
  | [] => [[]]
  | d :: s =>
    if d = c then [] :: pieces c s
    else
      match pieces c s with
      | [] => [[d]]
      | p :: ps => (d :: p) :: ps

/-- The texts with one `c` between any two of them. -/
def joined (c : Char) : List (List Char) → List Char
  | [] => []
  | [p] => p
  | p :: ps => p ++ c :: joined c ps

/-- Without one carriage return at its end. -/
def dropReturn (s : List Char) : List Char :=
  if s.getLast? = some '\r' then s.dropLast else s

/-- Each piece but the last is a line of its own, without the carriage return before its line
feed. The last one is a line if it holds anything. -/
def linesOfPieces : List (List Char) → List (List Char)
  | [] => []
  | [last] => if last.isEmpty then [] else [last]
  | p :: ps => dropReturn p :: linesOfPieces ps

def lines (s : List Char) : List (List Char) :=
  linesOfPieces (pieces '\n' s)

/-- What `q` encloses: `s` without `q` at its start and another at its end. -/
def enclosedBy? (q : Char) : List Char → Option (List Char)
  | [] => none
  | c :: s => if c = q ∧ s.getLast? = some q then some s.dropLast else none

end Portal.Text

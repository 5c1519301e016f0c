/-!
# UTF-8

A text as bytes, and bytes as a text. Ill-formed input is cut into its maximal parts: a part ends
before the first byte that cannot continue it, and each one counts as a single fault.
-/

namespace Portal.Utf8

def encode (s : List Char) : List UInt8 :=
  s.flatMap String.utf8EncodeChar

/-- Where a scan stands between two bytes. -/
inductive Scan
  | idle
  /-- A character still needs one byte from `low` to `high` and then `more` continuation bytes.
  `bits` holds what its bytes gave so far. -/
  | owed (more : Nat) (low high : UInt8) (bits : Nat)

/-- The first byte of a character. It also bounds the second, which rules out overlong forms,
surrogates and numbers past the last code point. -/
def Scan.start (b : UInt8) : Scan × List (Option Char) :=
  let n := b.toNat
  if n ≤ 0x7F then (.idle, [some (Char.ofNat n)])
  else if 0xC2 ≤ n ∧ n ≤ 0xDF then (.owed 0 0x80 0xBF (n - 0xC0), [])
  else if n = 0xE0 then (.owed 1 0xA0 0xBF 0, [])
  else if n = 0xED then (.owed 1 0x80 0x9F (n - 0xE0), [])
  else if 0xE1 ≤ n ∧ n ≤ 0xEF then (.owed 1 0x80 0xBF (n - 0xE0), [])
  else if n = 0xF0 then (.owed 2 0x90 0xBF 0, [])
  else if 0xF1 ≤ n ∧ n ≤ 0xF3 then (.owed 2 0x80 0xBF (n - 0xF0), [])
  else if n = 0xF4 then (.owed 2 0x80 0x8F (n - 0xF0), [])
  else (.idle, [none])

/-- The next byte: the characters that end with it, and `none` for each fault. -/
def Scan.step : Scan → UInt8 → Scan × List (Option Char)
  | .idle, b => start b
  | .owed more low high bits, b =>
    if low ≤ b ∧ b ≤ high then
      let bits := 64 * bits + (b.toNat - 0x80)
      match more with
      | 0 => (.idle, [some (Char.ofNat bits)])
      | more + 1 => (.owed more 0x80 0xBF bits, [])
    else
      let (next, out) := start b
      (next, none :: out)

def Scan.run : Scan → List UInt8 → List (Option Char)
  | .idle, [] => []
  | .owed .., [] => [none]
  | q, b :: bytes =>
    let (next, out) := q.step b
    out ++ next.run bytes

/-- The characters of `bytes`, with `none` for each ill-formed part. -/
def scan (bytes : List UInt8) : List (Option Char) :=
  Scan.idle.run bytes

/-- `none` if any part is ill-formed. -/
def decode? (bytes : List UInt8) : Option (List Char) :=
  (scan bytes).mapM id

/-- Each ill-formed part becomes U+FFFD. -/
def decodeLossy (bytes : List UInt8) : List Char :=
  (scan bytes).map fun c => c.getD '\uFFFD'

/-- The text of a message body: one byte order mark in front does not count. -/
def bodyText (bytes : List UInt8) : List Char :=
  match decodeLossy bytes with
  | '\uFEFF' :: s => s
  | s => s

end Portal.Utf8

import Portal.Text.Basic
import Portal.Text.Utf8

/-!
# What is written into a URL

Arguments as segments of a path, pairs as a query, and both with percent signs where a character would
mean something else.
-/

namespace Portal.Percent

/-!
## Percent-encoding

A byte as `%` and two hexadecimal digits, and texts in which such bytes are to be read.
-/

def upperHexDigit (n : Nat) : Char :=
  if n < 10 then Char.ofNat ('0'.toNat + n) else Char.ofNat ('A'.toNat + (n - 10))

def byte (b : UInt8) : List Char :=
  ['%', upperHexDigit (b.toNat / 16), upperHexDigit (b.toNat % 16)]

/-- Each byte of `s` that `escaped` names, and each that is not ASCII. -/
def encodeChar (escaped : Char → Bool) (c : Char) : List Char :=
  if c.toNat < 0x80 && !escaped c then [c]
  else (String.utf8EncodeChar c).flatMap byte

def encode (escaped : Char → Bool) (s : List Char) : List Char :=
  s.flatMap (encodeChar escaped)

/-- The bytes that a text stands for. A `%` without two digits after it stands for itself. -/
def decode : List Char → List UInt8
  | [] => []
  | c :: s =>
    match c, s with
    | '%', a :: b :: rest =>
      match Text.hexVal? a, Text.hexVal? b with
      | some x, some y => UInt8.ofNat (16 * x + y) :: decode rest
      | _, _ => 0x25 :: decode (a :: b :: rest)
    | c, s => String.utf8EncodeChar c ++ decode s

/-- Controls of ASCII: those below the space, and DEL. -/
def isControl (c : Char) : Bool :=
  c.toNat < 0x20 || c.toNat == 0x7F

end Portal.Percent

namespace Portal.Form

/-!
## Query strings

Pairs in the encoding of HTML forms: a space is a plus sign, and only ASCII letters, digits and
`*-._` stay as they are.
-/

def isEscaped (c : Char) : Bool :=
  !(c.isAlphanum || c == '*' || c == '-' || c == '.' || c == '_')

def encodeChar (c : Char) : List Char :=
  if c = ' ' then ['+'] else Percent.encodeChar isEscaped c

def encode (s : List Char) : List Char :=
  s.flatMap encodeChar

def pairText (p : String × String) : List Char :=
  encode p.1.toList ++ '=' :: encode p.2.toList

/-- The pairs in order. -/
def text (ps : List (String × String)) : List Char :=
  Text.joined '&' (ps.map pairText)

end Portal.Form

namespace Portal.Url

/-!
## Paths of endpoints

An argument becomes one segment of a path, a file's path several. Endpoints are appended to the
base with one slash between them.
-/

/-- What cannot stand in a segment: `%` and `/` are among them, so an argument never ends its
segment and never looks encoded already. -/
def isEscapedInSegment (c : Char) : Bool :=
  Percent.isControl c ||
    [' ', '"', '#', '%', '/', '<', '>', '?', '\\', '^', '`', '\x7b', '|', '\x7d'].contains c

def segmentChars (s : List Char) : List Char :=
  Percent.encode isEscapedInSegment s

def encodeSegment (s : String) : String :=
  .ofList (segmentChars s.toList)

/-- The pieces between slashes that are not empty. -/
def pathPieces (s : List Char) : List (List Char) :=
  (Text.pieces '/' s).filter fun p => !p.isEmpty

def pathChars (s : List Char) : List Char :=
  Text.joined '/' ((pathPieces s).map segmentChars)

/-- Segment by segment. Slashes at the ends and repeated ones do not count. -/
def encodePath (s : String) : String :=
  .ofList (pathChars s.toList)

def dropEndSlashes (s : List Char) : List Char :=
  Text.dropEndWhile (· == '/') s

/-- One slash between `base` and `endpoint`, whatever slashes they have there. -/
def join (base endpoint : String) : String :=
  .ofList (dropEndSlashes base.toList ++ '/' :: endpoint.toList.dropWhile (· == '/'))

end Portal.Url

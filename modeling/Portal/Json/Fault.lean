import Portal.Text.Utf8

/-!
# Why a text is not JSON

A fault names its cause and the place where it was noticed, as line and column. Columns count bytes.
-/

namespace Portal.Json

inductive Cause
  | eofList
  | eofObject
  | eofString
  | eofValue
  | expectedColon
  | expectedCommaOrBracket
  | expectedCommaOrBrace
  | expectedWord
  | expectedValue
  | invalidEscape
  | invalidNumber
  | numberOutOfRange
  | controlCharacter
  | keyNotString
  | loneSurrogate
  | trailingComma
  | trailingCharacters
  | unexpectedEndOfEscape
  | tooDeep
  deriving DecidableEq

def Cause.message : Cause → String
  | .eofList => "EOF while parsing a list"
  | .eofObject => "EOF while parsing an object"
  | .eofString => "EOF while parsing a string"
  | .eofValue => "EOF while parsing a value"
  | .expectedColon => "expected `:`"
  | .expectedCommaOrBracket => "expected `,` or `]`"
  | .expectedCommaOrBrace => "expected `,` or `\x7d`"
  | .expectedWord => "expected ident"
  | .expectedValue => "expected value"
  | .invalidEscape => "invalid escape"
  | .invalidNumber => "invalid number"
  | .numberOutOfRange => "number out of range"
  | .controlCharacter => "control character (\\u0000-\\u001F) found while parsing a string"
  | .keyNotString => "key must be a string"
  | .loneSurrogate => "lone leading surrogate in hex escape"
  | .trailingComma => "trailing comma"
  | .trailingCharacters => "trailing characters"
  | .unexpectedEndOfEscape => "unexpected end of hex escape"
  | .tooDeep => "recursion limit exceeded"

/-- The cause, what was left of the text, and how many bytes of that were looked at. -/
structure Fault where
  cause : Cause
  rest : List Char
  looked : Nat

/-- A line and the number of its bytes up to a place. -/
structure Position where
  line : Nat
  column : Nat
  deriving DecidableEq

/-- Where the bytes `read` end. -/
def Position.after (read : List UInt8) : Position :=
  ⟨1 + read.count 0x0A, (read.reverse.takeWhile (· != 0x0A)).length⟩

def Fault.position (f : Fault) (text : List Char) : Position :=
  let bytes := Utf8.encode text
  .after (bytes.take (bytes.length - (Utf8.encode f.rest).length + f.looked))

def Fault.message (f : Fault) (text : List Char) : String :=
  let p := f.position text
  s!"{f.cause.message} at line {p.line} column {p.column}"

end Portal.Json

import Portal.Json.Number

/-!
# Reading JSON text

One value with blanks around it. Arrays and objects may be nested 127 deep. Every reader carries the
proof that it used up some of the text, so the loops over members and elements end.
-/

namespace Portal.Json

open Text (hexVal?)

/-- A value and what follows it in `s`. -/
structure Parsed (α : Type) (s : List Char) where
  value : α
  rest : List Char
  shorter : rest.length < s.length

abbrev Reader (α : Type) := (s : List Char) → Except Fault (Parsed α s)

def isJsonBlank (c : Char) : Bool :=
  c == ' ' || c == '\t' || c == '\n' || c == '\r'

def skipBlanks (s : List Char) : List Char :=
  s.dropWhile isJsonBlank

theorem skipBlanks_length_le (s : List Char) : (skipBlanks s).length ≤ s.length :=
  (List.dropWhile_suffix _).length_le

/-- The same value, read from a longer text. -/
def Parsed.ofRest {α : Type} {s t : List Char} (p : Parsed α t) (h : t.length ≤ s.length) :
    Parsed α s :=
  ⟨p.value, p.rest, Nat.lt_of_lt_of_le p.shorter h⟩

/-! ## Strings -/

def hexQuad? (a b c d : Char) : Option Nat := do
  return 4096 * (← hexVal? a) + 256 * (← hexVal? b) + 16 * (← hexVal? c) + (← hexVal? d)

/-- Four hexadecimal digits. A text is too short for them only if it has less than four bytes. -/
def hexEscape : Reader Nat := fun s =>
  if (Utf8.encode (s.take 4)).length < 4 then .error ⟨.eofString, [], 0⟩
  else
    match s with
    | a :: b :: c :: d :: rest =>
      match hexQuad? a b c d with
      | some n => .ok ⟨n, rest, by simp only [List.length_cons]; omega⟩
      | none => .error ⟨.invalidEscape, s, 4⟩
    | _ => .error ⟨.invalidEscape, s, 4⟩

/-- What must follow the first half of a surrogate pair. -/
def secondHalf : Reader Nat := fun s =>
  match s with
  | [] => .error ⟨.eofString, [], 0⟩
  | '\\' :: [] => .error ⟨.eofString, [], 0⟩
  | '\\' :: 'u' :: s => do
    let p ← hexEscape s
    if 0xDC00 ≤ p.value ∧ p.value ≤ 0xDFFF then
      return p.ofRest (by simp only [List.length_cons]; omega)
    else throw ⟨.loneSurrogate, p.rest, 0⟩
  | '\\' :: s => .error ⟨.unexpectedEndOfEscape, s, 1⟩
  | s => .error ⟨.unexpectedEndOfEscape, s, 1⟩

/-- What follows `\u`: a character, or one in two halves. -/
def unicodeEscape : Reader Char := fun s => do
  let p ← hexEscape s
  if 0xDC00 ≤ p.value ∧ p.value ≤ 0xDFFF then throw ⟨.loneSurrogate, p.rest, 0⟩
  else if 0xD800 ≤ p.value ∧ p.value ≤ 0xDBFF then
    let q ← secondHalf p.rest
    let n := 0x10000 + 0x400 * (p.value - 0xD800) + (q.value - 0xDC00)
    return ⟨Char.ofNat n, q.rest, Nat.lt_trans q.shorter p.shorter⟩
  else return ⟨Char.ofNat p.value, p.rest, p.shorter⟩

/-- The characters that a backslash and a letter stand for. -/
def shortEscape? : Char → Option Char
  | '"' => some '"'
  | '\\' => some '\\'
  | '/' => some '/'
  | 'b' => some '\x08'
  | 'f' => some '\x0c'
  | 'n' => some '\n'
  | 'r' => some '\r'
  | 't' => some '\t'
  | _ => none

/-- What follows a backslash. -/
def escape : Reader Char := fun s =>
  match s with
  | [] => .error ⟨.eofString, [], 0⟩
  | c :: rest =>
    if c = 'u' then (unicodeEscape rest).map fun p => p.ofRest (Nat.le_succ _)
    else
      match shortEscape? c with
      | some d => .ok ⟨d, rest, Nat.lt_succ_self _⟩
      | none => .error ⟨.invalidEscape, s, 1⟩

/-- What follows the opening quote, up to the closing one. -/
def stringBody : Reader (List Char) := fun s =>
  match s with
  | [] => .error ⟨.eofString, [], 0⟩
  | c :: rest =>
    if c = '"' then .ok ⟨[], rest, Nat.lt_succ_self _⟩
    else if c = '\\' then do
      let ⟨d, rest', h⟩ ← escape rest
      let p ← stringBody rest'
      return ⟨d :: p.value, p.rest, by have := p.shorter; simp only [List.length_cons]; omega⟩
    else if c.toNat < 0x20 then .error ⟨.controlCharacter, c :: rest, 1⟩
    else do
      let p ← stringBody rest
      return ⟨c :: p.value, p.rest, by have := p.shorter; simp only [List.length_cons]; omega⟩
termination_by s => s.length
decreasing_by all_goals (simp_all <;> omega)

/-! ## Arrays and objects -/

/-- Between two values: the end of the list, or the place where the next one starts. -/
inductive Turn (s : List Char)
  | close (rest : List Char) (shorter : rest.length < s.length)
  | next (rest : List Char) (le : rest.length ≤ s.length)

theorem length_le_of_skipBlanks {s t : List Char} (h : skipBlanks s = t) : t.length ≤ s.length :=
  h ▸ skipBlanks_length_le s

theorem length_lt_of_skipBlanks {s t : List Char} {c : Char} (h : skipBlanks s = c :: t) :
    t.length < s.length := by
  have := length_le_of_skipBlanks h
  exact this

/-- A comma stands before every element but the first. -/
def arrayTurn (first : Bool) (s : List Char) : Except Fault (Turn s) :=
  match h : skipBlanks s with
  | [] => .error ⟨.eofList, [], 0⟩
  | c :: rest =>
    if c = ']' then .ok (.close rest (length_lt_of_skipBlanks h))
    else if first then .ok (.next (c :: rest) (length_le_of_skipBlanks h))
    else if c = ',' then
      match h' : skipBlanks rest with
      | [] => .error ⟨.eofValue, [], 0⟩
      | d :: rest' =>
        if d = ']' then .error ⟨.trailingComma, d :: rest', 1⟩
        else
          .ok (.next (d :: rest') (Nat.le_trans (length_le_of_skipBlanks h')
            (Nat.le_of_lt (length_lt_of_skipBlanks h))))
    else .error ⟨.expectedCommaOrBracket, c :: rest, 1⟩

/-- What follows an opening bracket. -/
def elements (item : Reader Json) (first : Bool) : Reader (List Json) := fun s => do
  match ← arrayTurn first s with
  | .close rest h => return ⟨[], rest, h⟩
  | .next rest h =>
    let ⟨v, rest, h₁⟩ ← item rest
    let p ← elements item false rest
    return ⟨v :: p.value, p.rest, by have := p.shorter; omega⟩
termination_by s => s.length
decreasing_by omega

/-- A member starts with a quote, and a comma stands before every one but the first. What is left
starts after the quote. -/
def objectTurn (first : Bool) (s : List Char) : Except Fault (Turn s) :=
  match h : skipBlanks s with
  | [] => .error ⟨.eofObject, [], 0⟩
  | c :: rest =>
    have lt := length_lt_of_skipBlanks h
    if c = '\x7d' then .ok (.close rest lt)
    else if first then
      if c = '"' then .ok (.next rest (Nat.le_of_lt lt))
      else .error ⟨.keyNotString, c :: rest, 1⟩
    else if c = ',' then
      match h' : skipBlanks rest with
      | [] => .error ⟨.eofValue, [], 0⟩
      | d :: rest' =>
        if d = '"' then
          .ok (.next rest' (Nat.le_of_lt (Nat.lt_trans (length_lt_of_skipBlanks h') lt)))
        else if d = '\x7d' then .error ⟨.trailingComma, d :: rest', 1⟩
        else .error ⟨.keyNotString, d :: rest', 1⟩
    else .error ⟨.expectedCommaOrBrace, c :: rest, 1⟩

def colon : Reader Unit := fun s =>
  match h : skipBlanks s with
  | [] => .error ⟨.eofObject, [], 0⟩
  | c :: rest =>
    if c = ':' then .ok ⟨(), rest, length_lt_of_skipBlanks h⟩
    else .error ⟨.expectedColon, c :: rest, 1⟩

/-- What follows an opening brace. -/
def members (item : Reader Json) (first : Bool) : Reader (List (String × Json)) := fun s => do
  match ← objectTurn first s with
  | .close rest h => return ⟨[], rest, h⟩
  | .next rest h =>
    let ⟨key, rest, h₁⟩ ← stringBody rest
    let ⟨_, rest, h₂⟩ ← colon rest
    let ⟨v, rest, h₃⟩ ← item rest
    let p ← members item false rest
    return ⟨(.ofList key, v) :: p.value, p.rest, by have := p.shorter; omega⟩
termination_by s => s.length
decreasing_by omega

/-! ## Values -/

/-- The letters of a word after its first. -/
def word (letters : List Char) (v : Json) (s : List Char) :
    Except Fault { r : Json × List Char // r.2.length ≤ s.length } :=
  match letters, s with
  | [], s => .ok ⟨(v, s), Nat.le_refl _⟩
  | _ :: _, [] => .error ⟨.eofValue, [], 0⟩
  | l :: ls, c :: s =>
    if c = l then (word ls v s).map fun ⟨r, h⟩ => ⟨r, Nat.le_succ_of_le h⟩
    else .error ⟨.expectedWord, c :: s, 1⟩

/-- A value that is neither an array nor an object, and starts with `c`. -/
def scalar (c : Char) (rest : List Char) : Except Fault (Parsed Json (c :: rest)) :=
  let lift {t : List Char} (h : t.length ≤ rest.length) (v : Json) : Parsed Json (c :: rest) :=
    ⟨v, t, Nat.lt_succ_of_le h⟩
  if c = 'n' then (word ['u', 'l', 'l'] .null rest).map fun ⟨r, h⟩ => lift h r.1
  else if c = 't' then (word ['r', 'u', 'e'] (.bool true) rest).map fun ⟨r, h⟩ => lift h r.1
  else if c = 'f' then
    (word ['a', 'l', 's', 'e'] (.bool false) rest).map fun ⟨r, h⟩ => lift h r.1
  else if c = '"' then
    (stringBody rest).map fun p => lift (Nat.le_of_lt p.shorter) (.string (.ofList p.value))
  else if c = '-' || Text.isDigit c then
    match h : number (c :: rest) with
    | .ok (v, t) => .ok ⟨v, t, number_length_lt h⟩
    | .error e => .error e
  else .error ⟨.expectedValue, c :: rest, 1⟩

/-- The first value of a text. Inside it there is room for `depth` levels of nesting. -/
def value : (depth : Nat) → Reader Json
  | depth, s =>
    match h : skipBlanks s with
    | [] => .error ⟨.eofValue, [], 0⟩
    | c :: rest =>
      have lt := length_lt_of_skipBlanks h
      if c = '[' ∨ c = '\x7b' then
        match depth with
        | 0 => .error ⟨.tooDeep, c :: rest, 1⟩
        | depth + 1 =>
          if c = '[' then
            (elements (value depth) true rest).map fun p =>
              ⟨.array p.value, p.rest, Nat.lt_trans p.shorter lt⟩
          else
            (members (value depth) true rest).map fun p =>
              ⟨.ofMembers p.value, p.rest, Nat.lt_trans p.shorter lt⟩
      else (scalar c rest).map fun p => p.ofRest (length_le_of_skipBlanks h)

/-- The value that the whole text writes. -/
def read (s : List Char) : Except Fault Json := do
  let p ← value 127 s
  match skipBlanks p.rest with
  | [] => return p.value
  | rest => throw ⟨.trailingCharacters, rest, 1⟩

/-- A fault as a message. -/
def parse (text : String) : Except String Json :=
  (read text.toList).mapError fun f => f.message text.toList

end Portal.Json

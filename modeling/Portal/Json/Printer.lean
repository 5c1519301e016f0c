import Portal.Json.Basic
import Portal.Number.Printer
import Portal.Text.Basic

/-!
# Compact JSON text

No blanks, members in the order they are kept, and only those characters escaped that must be.
-/

namespace Portal.Json

/-- Doubles have an exponent below `0.00001` and from `10 ^ 16` on. -/
def floatLayout : Number.Layout :=
  ⟨-5, 16⟩

def escapedChar (c : Char) : List Char :=
  match c with
  | '"' => ['\\', '"']
  | '\\' => ['\\', '\\']
  | '\x08' => ['\\', 'b']
  | '\t' => ['\\', 't']
  | '\n' => ['\\', 'n']
  | '\x0c' => ['\\', 'f']
  | '\r' => ['\\', 'r']
  | c =>
    if c.toNat < 0x20 then
      ['\\', 'u'] ++ (Text.hex c.toNat).leftpad 4 '0'
    else [c]

def stringText (s : String) : List Char :=
  ['"'] ++ s.toList.flatMap escapedChar ++ ['"']

def floatText (x : Number.Binary64) : String :=
  floatLayout.writeDouble x

mutual

def chars : Json → List Char
  | .null => ['n', 'u', 'l', 'l']
  | .bool true => ['t', 'r', 'u', 'e']
  | .bool false => ['f', 'a', 'l', 's', 'e']
  | .int n => (toString n).toList
  | .float x => (floatText x).toList
  | .string s => stringText s
  | .array items => ['['] ++ Text.joined ',' (itemChars items) ++ [']']
  | .object members => ['\x7b'] ++ Text.joined ',' (memberChars members) ++ ['\x7d']

def itemChars : List Json → List (List Char)
  | [] => []
  | v :: vs => chars v :: itemChars vs

def memberChars : List (String × Json) → List (List Char)
  | [] => []
  | (k, v) :: ms => (stringText k ++ ':' :: chars v) :: memberChars ms

end

def text (v : Json) : String :=
  .ofList (chars v)

end Portal.Json

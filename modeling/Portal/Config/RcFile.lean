import Portal.Config.Basic
import Portal.Text.Basic

/-!
# Configuration files

Lines `name: value`, with quotes around the value or not. The value of `url` and of `key` may stand
on a line of its own after the name. Blank lines and lines that start with `#` do not count, and
neither do names that are not known.
-/

namespace Portal

/-- What one source says about a client. -/
structure Settings where
  url : Option String
  key : Option String
  verify : Option Bool
  timeout : Option Duration
  deriving DecidableEq

def Settings.empty : Settings :=
  ⟨none, none, none, none⟩

namespace RcFile

inductive Name
  | url
  | key
  | verify
  | timeout
  deriving DecidableEq

def Name.ofChars? (s : List Char) : Option Name :=
  match String.ofList s with
  | "url" => some .url
  | "key" => some .key
  | "verify" => some .verify
  | "timeout" => some .timeout
  | _ => none

/-- Whether the value may stand on the next line. -/
def Name.mayWait : Name → Bool
  | .url | .key => true
  | .verify | .timeout => false

/-- Without blanks at its ends, and then without one pair of quotes around it. -/
def unquoted (s : List Char) : List Char :=
  let s := Text.trim s
  match Text.enclosedBy? '"' s with
  | some t => t
  | none => (Text.enclosedBy? '\'' s).getD s

/-- The name before a colon, if it is known. -/
def name? (line : List Char) : Option Name := do
  let (name, _) ← Text.splitOnce ':' line
  Name.ofChars? (Text.trim name)

def assign (settings : Settings) (name : Name) (value : List Char) :
    Except SettingFault Settings :=
  match name with
  | .url => .ok { settings with url := some (.ofList value) }
  | .key => .ok { settings with key := some (.ofList value) }
  | .verify => do return { settings with verify := some (← readBool value) }
  | .timeout => do return { settings with timeout := some (← readTimeout value) }

/-- What the lines so far said, and the name that waits for its value. -/
structure State where
  settings : Settings
  waiting : Option Name
  deriving DecidableEq

def State.start : State :=
  ⟨.empty, none⟩

def isComment (line : List Char) : Bool :=
  line.isEmpty || line.head? == some '#'

/-- A line `name: value`. Others, and unknown names, only end the wait. -/
def nameLine (settings : Settings) (line : List Char) : Except SettingFault State :=
  match Text.splitOnce ':' line with
  | none => .ok ⟨settings, none⟩
  | some (name, value) =>
    match Name.ofChars? (Text.trim name) with
    | none => .ok ⟨settings, none⟩
    | some name =>
      let value := unquoted value
      if value.isEmpty then .ok ⟨settings, if name.mayWait then some name else none⟩
      else (assign settings name value).map fun s => ⟨s, none⟩

/-- A line without blanks at its ends. -/
def trimmedLine (q : State) (line : List Char) : Except SettingFault State :=
  if isComment line then .ok q
  else
    match q.waiting, name? line with
    | some name, none => (assign q.settings name (unquoted line)).map fun s => ⟨s, none⟩
    | _, _ => nameLine q.settings line

def step (q : State) (line : List Char) : Except SettingFault State :=
  trimmedLine q (Text.trim line)

def run (q : State) : List (List Char) → Except SettingFault State
  | [] => .ok q
  | line :: lines => do
    let q ← step q line
    run q lines

/-- A name that still waits at the end has no value. -/
def parse (text : String) : Except SettingFault Settings :=
  (run .start (Text.lines text.toList)).map State.settings

end RcFile

end Portal

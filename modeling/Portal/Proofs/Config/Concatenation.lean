import Portal.Config.Load
import Portal.Proofs.Config.Lines

/-!
# One file after another

Where no name waits at the end of the first, two files in a row say what each of them says alone. The
second counts where both speak, and the first fault is the one that is found.
-/

namespace Portal

theorem Settings.empty_or (s : Settings) : Settings.empty.or s = s := rfl

namespace RcFile

/-- The state with `s` said before all that was said so far. -/
def State.over (s : Settings) (q : State) : State :=
  ⟨q.settings.or s, q.waiting⟩

/-! ## One line -/

theorem assign_or (s t : Settings) (name : Name) (value : List Char) :
    assign (t.or s) name value = (assign t name value).map fun t => t.or s := by
  cases name with
  | url | key => rfl
  | verify =>
    rw [assign, assign]
    cases readBool value <;> rfl
  | timeout =>
    rw [assign, assign]
    cases readTimeout value <;> rfl

theorem assign_over (s t : Settings) (name : Name) (value : List Char) :
    ((assign (t.or s) name value).map fun t => State.mk t none) =
      ((assign t name value).map fun t => State.mk t none).map (State.over s) := by
  rw [assign_or]
  cases assign t name value <;> rfl

theorem nameLine_over (s t : Settings) (line : List Char) :
    nameLine (t.or s) line = (nameLine t line).map (State.over s) := by
  unfold nameLine
  cases Text.splitOnce ':' line with
  | none => rfl
  | some parts =>
    obtain ⟨name, value⟩ := parts
    dsimp only
    cases Name.ofChars? (Text.trim name) with
    | none => rfl
    | some name =>
      dsimp only
      split
      · rfl
      · exact assign_over s t name _

theorem step_over (s : Settings) (q : State) (line : List Char) :
    step (q.over s) line = (step q line).map (State.over s) := by
  obtain ⟨t, waiting⟩ := q
  unfold step trimmedLine
  split
  · rfl
  · cases waiting with
    | none => exact nameLine_over s t _
    | some name =>
      cases name? (Text.trim line) with
      | none => exact assign_over s t name _
      | some _ => exact nameLine_over s t _

/-! ## All lines -/

theorem run_over (s : Settings) (q : State) (lines : List (List Char)) :
    run (q.over s) lines = (run q lines).map (State.over s) := by
  induction lines generalizing q with
  | nil => rfl
  | cons line lines ih =>
    rw [run_cons, run_cons, step_over]
    cases step q line with
    | error fault => rfl
    | ok q => exact ih q

theorem run_of_nothing_waiting {q : State} (h : q.waiting = none) (lines : List (List Char)) :
    run q lines = (run .start lines).map (State.over q.settings) := by
  have hq : State.start.over q.settings = q := by
    rw [State.over, State.start, Settings.empty_or, ← h]
  rw [← run_over, hq]

/-- If no name waits at the end of the first text, reading two texts with a line feed between them
is reading both: the first fault is the fault, and without one each setting is what the second text
says, or else what the first one says. -/
theorem parse_append_line (t₁ t₂ : String) (h : NothingWaits (Text.lines t₁.toList)) :
    parse (t₁ ++ "\n" ++ t₂) = (parse t₁).bind fun c₁ => (parse t₂).map fun c₂ => c₂.or c₁ := by
  have htext : (t₁ ++ "\n" ++ t₂).toList = t₁.toList ++ '\n' :: t₂.toList := by
    simp [String.toList_append]
  rw [parse_eq, parse_eq, parse_eq, htext, Text.pieces_append_cons, run_append]
  rw [NothingWaits, run_lines] at h
  cases hfirst : run .start (Text.pieces '\n' t₁.toList) with
  | error fault => rfl
  | ok q =>
    change (run q _).map State.settings =
      ((run .start _).map State.settings).map fun c₂ => c₂.or q.settings
    rw [run_of_nothing_waiting (h q hfirst)]
    cases run .start (Text.pieces '\n' t₂.toList) <;> rfl

/-- All settings but one, with the key on a line of its own. -/
def sharedFile : String :=
  "url: http://a\nkey:\n  'k'\r\ntimeout: 2.5\r"

/-- Another key, the setting that was left out, and an address that never comes. -/
def ownFile : String :=
  "# mine\nverify: no\nkey: \"j\"\nurl:"

theorem own_file_after_shared_file :
    NothingWaits (Text.lines sharedFile.toList) ∧
      parse (sharedFile ++ "\n" ++ ownFile) =
        .ok ⟨some "http://a", some "j", some false, some ⟨2500000000, by decide⟩⟩ := by
  have hwaits : NothingWaits (Text.lines sharedFile.toList) := by decide +kernel
  have hshared : parse sharedFile =
      .ok ⟨some "http://a", some "k", none, some ⟨2500000000, by decide⟩⟩ := by decide +kernel
  have hown : parse ownFile = .ok ⟨none, some "j", some false, none⟩ := by decide +kernel
  refine ⟨hwaits, ?_⟩
  rw [parse_append_line sharedFile ownFile hwaits, hshared, hown]
  rfl

end RcFile

end Portal

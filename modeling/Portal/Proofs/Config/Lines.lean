import Portal.Config.RcFile
import Portal.Proofs.Success
import Portal.Proofs.Text.Trim

/-!
# The lines of a configuration file

A file is read line by line. What a line does depends on the lines before it only through the state
they leave, and not at all on the blanks at its own ends.
-/

namespace Portal.RcFile

open Text (isBlank)

theorem step_congr {line line' : List Char} (h : Text.trim line = Text.trim line') (q : State) :
    step q line = step q line' := by
  rw [step, step, h]

theorem run_cons (q : State) (line : List Char) (lines : List (List Char)) :
    run q (line :: lines) = (step q line).bind fun q => run q lines := rfl

theorem run_append (q : State) (lines more : List (List Char)) :
    run q (lines ++ more) = (run q lines).bind fun q => run q more := by
  induction lines generalizing q with
  | nil => rfl
  | cons line lines ih =>
    rw [List.cons_append, run_cons, run_cons]
    cases step q line with
    | error fault => rfl
    | ok q => exact ih q

theorem exists_of_run_concat {q r : State} {lines : List (List Char)} {line : List Char}
    (h : run q (lines ++ [line]) = .ok r) : ∃ p, run q lines = .ok p ∧ step p line = .ok r := by
  rw [run_append] at h
  obtain ⟨p, hp, hline⟩ := exists_of_bind_eq_ok h
  rw [run_cons] at hline
  obtain ⟨r', hr, hend⟩ := exists_of_bind_eq_ok hline
  obtain rfl : r' = r := Except.ok.inj hend
  exact ⟨p, hp, hr⟩

theorem run_linesOfPieces (q : State) (ps : List (List Char)) :
    run q (Text.linesOfPieces ps) = run q ps := by
  induction ps generalizing q with
  | nil => rfl
  | cons p ps ih =>
    cases ps with
    | nil =>
      rw [Text.linesOfPieces]
      split
      · next h => rw [List.isEmpty_iff.mp h]; rfl
      · rfl
    | cons p' ps =>
      rw [Text.linesOfPieces, run_cons, run_cons, step_congr (Text.trim_dropReturn p)]
      · congr 1
        funext q
        exact ih q
      · simp

theorem run_lines (q : State) (s : List Char) :
    run q (Text.lines s) = run q (Text.pieces '\n' s) :=
  run_linesOfPieces q _

theorem run_line (q : State) {line : List Char} (h : '\n' ∉ line) :
    run q (Text.pieces '\n' line) = step q line := by
  rw [Text.pieces_of_not_mem h, run_cons]
  cases step q line <;> rfl

theorem run_blank_append {a : List Char} (h : ∀ c ∈ a, isBlank c = true) (q : State)
    (s : List Char) : run q (Text.pieces '\n' (a ++ s)) = run q (Text.pieces '\n' s) := by
  induction a with
  | nil => rfl
  | cons c a ih =>
    have ih := ih fun d hd => h d (List.mem_cons_of_mem c hd)
    rw [← ih]
    by_cases hc : c = '\n'
    · rw [List.cons_append, Text.pieces, if_pos hc]
      rfl
    · obtain ⟨p, ps, hp, hcons⟩ := Text.pieces_cons_of_ne hc (a ++ s)
      have htrim : Text.trim ([c] ++ p) = Text.trim p := by
        apply Text.trim_blank_append
        simpa using h c List.mem_cons_self
      rw [List.cons_append, hcons, hp, run_cons, run_cons, ← step_congr htrim]
      rfl

theorem step_of_name {line : List Char} {name : Name} (hline : isComment (Text.trim line) = false)
    (h : name? (Text.trim line) = some name) (q : State) :
    step q line = nameLine q.settings (Text.trim line) := by
  rw [step, trimmedLine, hline, h]
  cases q.waiting <;> rfl

/-! ## What waits -/

/-- Reading the lines leaves no name without its value, unless something is wrong with them. -/
def NothingWaits (lines : List (List Char)) : Prop :=
  ∀ q, run .start lines = .ok q → q.waiting = none

instance (lines : List (List Char)) : Decidable (NothingWaits lines) :=
  match h : run .start lines with
  | .error _ => isTrue fun q hq => by rw [h] at hq; cases hq
  | .ok q => decidable_of_iff (q.waiting = none) (by simp [NothingWaits, h])

theorem parse_eq (text : String) :
    parse text = (run .start (Text.pieces '\n' text.toList)).map State.settings := by
  rw [parse, run_lines]

end Portal.RcFile

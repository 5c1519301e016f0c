import Mathlib.Logic.Relation
import Portal.Proofs.Config.LineKinds

/-!
# Noise in a configuration file

Blank lines, comments, blanks at the ends of a line and carriage returns before a line feed change
nothing wherever they stand, and neither do lines of no known name where no name waits for its value.
Files that differ in such things only are read the same, value or fault.
-/

namespace Portal.RcFile

open Text (isBlank)

/-! ## Adding noise -/

/-- Lines, and the same lines with noise in one place. -/
inductive Edit : List (List Char) → List (List Char) → Prop
  /-- A line that is always ignored, also between a name and its value. -/
  | ignored (before after : List (List Char)) {line : List Char} (h : IsIgnored line) :
      Edit (before ++ after) (before ++ line :: after)
  | unknown {before : List (List Char)} (hbefore : NothingWaits before)
      (after : List (List Char)) {line : List Char} (h : IsUnknown line) :
      Edit (before ++ after) (before ++ line :: after)
  | padded (before after : List (List Char)) (line : List Char) {a b : List Char}
      (ha : ∀ c ∈ a, isBlank c = true) (hb : ∀ c ∈ b, isBlank c = true) :
      Edit (before ++ line :: after) (before ++ (a ++ line ++ b) :: after)
  /-- A carriage return and a line feed between `line` and `next`, and no longer a line feed alone. -/
  | lineEnd (before after : List (List Char)) (line next : List Char) :
      Edit (before ++ line :: next :: after) (before ++ (line ++ ['\r']) :: next :: after)

/-- `t'` is `t` with noise in one place. What is between two line feeds counts as a line here, with
all that stands at its ends. -/
def AddsNoise (t t' : String) : Prop :=
  ∃ lines, Edit (Text.pieces '\n' t.toList) lines ∧ (∀ line ∈ lines, '\n' ∉ line) ∧
    t' = .ofList (Text.joined '\n' lines)

theorem run_insert {before : List (List Char)} {q : State} {line : List Char}
    (h : ∀ q', run q before = .ok q' → step q' line = .ok q') (after : List (List Char)) :
    run q (before ++ after) = run q (before ++ line :: after) := by
  rw [run_append, run_append]
  cases hbefore : run q before with
  | error fault => rfl
  | ok q' =>
    change run q' after = run q' (line :: after)
    rw [run_cons, h q' hbefore]
    rfl

theorem run_replace {line line' : List Char} (h : Text.trim line = Text.trim line') (q : State)
    (before after : List (List Char)) :
    run q (before ++ line :: after) = run q (before ++ line' :: after) := by
  rw [run_append, run_append]
  congr 1
  funext q'
  rw [run_cons, run_cons, step_congr h]

theorem trim_padded {a b : List Char} (ha : ∀ c ∈ a, isBlank c = true)
    (hb : ∀ c ∈ b, isBlank c = true) (line : List Char) :
    Text.trim (a ++ line ++ b) = Text.trim line := by
  rw [Text.trim_append_blank hb, Text.trim_blank_append ha]

theorem run_eq_of_edit {lines lines' : List (List Char)} (h : Edit lines lines') :
    run .start lines = run .start lines' := by
  cases h with
  | ignored before after h => exact run_insert (fun q _ => step_of_ignored h q) after
  | unknown hbefore after h =>
    exact run_insert (fun q hq => step_of_unknown h (hbefore q hq)) after
  | padded before after line ha hb =>
    exact run_replace (trim_padded ha hb line).symm _ before after
  | lineEnd before after line next =>
    have hreturn : Text.trim (line ++ ['\r']) = Text.trim line :=
      Text.trim_append_blank (by simp [isBlank]) line
    exact run_replace hreturn.symm _ before (next :: after)

theorem ne_nil_of_edit {lines lines' : List (List Char)} (h : Edit lines lines') : lines' ≠ [] := by
  cases h <;> simp

theorem parse_eq_of_addsNoise {t t' : String} (h : AddsNoise t t') : parse t = parse t' := by
  obtain ⟨lines, hedit, hline, rfl⟩ := h
  have hlines : Text.pieces '\n' (Text.joined '\n' lines) = lines :=
    Text.pieces_joined (ne_nil_of_edit hedit) hline
  rw [parse_eq, parse_eq, String.toList_ofList, hlines, run_eq_of_edit hedit]

/-- Texts that lead to each other by adding and removing noise, in however many places, are read the
same: as the same settings, or as the same fault. -/
theorem parse_eq_of_noise {t t' : String} (h : Relation.EqvGen AddsNoise t t') :
    parse t = parse t' := by
  induction h with
  | rel _ _ h => exact parse_eq_of_addsNoise h
  | refl _ => rfl
  | symm _ _ _ ih => exact ih.symm
  | trans _ _ _ _ _ ih ih' => exact ih.trans ih'

def plainFile : String := "url:\nhttp://a\nkey: k"

/-- The same with a comment between a name and its value, a carriage return, a tab and a line of an
unknown name. -/
def noisyFile : String := "url:\r\n # where\n\thttp://a\nkey: k\nmode: fast"

theorem noisy_file_reads_like_plain_file :
    Relation.EqvGen AddsNoise plainFile noisyFile ∧
      parse noisyFile = .ok ⟨some "http://a", some "k", none, none⟩ := by
  have hcomment : AddsNoise plainFile "url:\n # where\nhttp://a\nkey: k" :=
    ⟨_, .ignored ["url:".toList] ["http://a".toList, "key: k".toList]
      (.comment [' '] " where".toList (by simp [isBlank])), by simp, rfl⟩
  have hreturn : AddsNoise "url:\n # where\nhttp://a\nkey: k"
      "url:\r\n # where\nhttp://a\nkey: k" :=
    ⟨_, .lineEnd [] ["http://a".toList, "key: k".toList] "url:".toList " # where".toList,
      by simp, rfl⟩
  have htab : AddsNoise "url:\r\n # where\nhttp://a\nkey: k"
      "url:\r\n # where\n\thttp://a\nkey: k" :=
    ⟨_, .padded ["url:\r".toList, " # where".toList] ["key: k".toList] "http://a".toList
      (a := ['\t']) (b := []) (by simp [isBlank]) (by simp), by simp, rfl⟩
  have hwaits : NothingWaits ["url:\r".toList, " # where".toList, "\thttp://a".toList,
      "key: k".toList] := by decide +kernel
  have hunknown : AddsNoise "url:\r\n # where\n\thttp://a\nkey: k" noisyFile :=
    ⟨_, .unknown hwaits [] (.named "mode".toList " fast".toList (by simp) (by decide)),
      by simp, rfl⟩
  have hnoise : Relation.EqvGen AddsNoise plainFile noisyFile :=
    .trans _ _ _ (.rel _ _ hcomment) (.trans _ _ _ (.rel _ _ hreturn)
      (.trans _ _ _ (.rel _ _ htab) (.rel _ _ hunknown)))
  have hplain : parse plainFile = .ok ⟨some "http://a", some "k", none, none⟩ := by
    decide +kernel
  refine ⟨hnoise, ?_⟩
  rw [← parse_eq_of_noise hnoise, hplain]

end Portal.RcFile

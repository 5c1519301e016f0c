import Portal.Config.Load
import Portal.Proofs.Config.LineKinds
import Portal.Proofs.Text.Utf8

/-!
# A key in a configuration file

Wherever it stands, a line with a quoted key gives that key, and nothing that waited for its value
gets one.
-/

namespace Portal

/-! ## The line -/

/-- Where a quoted key stands among the lines of a file. Its value may be on a line after the one
with its name. -/
structure KeyLine where
  before : List (List UInt8)
  indent : List Char
  gap : List Char
  quote : Char
  tail : List Char
  after : List (List UInt8)
  indent_blank : ∀ c ∈ indent, Text.isBlank c = true
  gap_blank : ∀ c ∈ gap, Text.isBlank c = true
  quote_isQuote : RcFile.IsQuote quote
  tail_blank : ∀ c ∈ tail, Text.isBlank c = true ∧ c ≠ '\n'

namespace KeyLine

variable (l : KeyLine) {k : String}

def quoted (k : String) : List Char :=
  l.quote :: k.toList ++ [l.quote]

def text (k : String) : List Char :=
  l.indent ++ ("key:".toList ++ (l.gap ++ (l.quoted k ++ l.tail)))

def bytes (k : String) : List UInt8 :=
  [0x0A].intercalate (l.before ++ Utf8.encode (l.text k) :: l.after)

open RcFile (State step run)

theorem isLineOf_key (value : List Char) :
    RcFile.IsLineOf .key value ("key:".toList ++ value) :=
  RcFile.isLineOf_text .key value

theorem unquoted_quoted_tail : RcFile.unquoted (l.quoted k ++ l.tail) = k.toList := by
  rw [RcFile.unquoted_append_blank fun c hc => (l.tail_blank c hc).1]
  exact l.quote_isQuote.unquoted_quoted _

theorem step_name (q : State) {gap : List Char} (h : ∀ c ∈ gap, Text.isBlank c = true) :
    step q ("key:".toList ++ gap) = .ok ⟨q.settings, some .key⟩ :=
  (isLineOf_key gap).step_of_empty (RcFile.unquoted_of_blank h) q

theorem step_value (s : Settings) :
    step ⟨s, some .key⟩ (l.quoted k ++ l.tail) = .ok ⟨{ s with key := some k }, none⟩ := by
  have hunknown : RcFile.IsUnknown (l.quoted k ++ l.tail) := l.quote_isQuote.isUnknown _
  have hcounts : ¬ RcFile.IsIgnored (l.quoted k ++ l.tail) := l.quote_isQuote.not_ignored _
  rw [RcFile.step_of_waiting hunknown hcounts, l.unquoted_quoted_tail]
  simp [RcFile.assign, Except.map]

theorem step_whole (q : State) (hk : k.toList ≠ []) :
    step q ("key:".toList ++ (l.gap ++ (l.quoted k ++ l.tail))) =
      .ok ⟨{ q.settings with key := some k }, none⟩ := by
  have hvalue : RcFile.unquoted (l.gap ++ (l.quoted k ++ l.tail)) = k.toList := by
    rw [RcFile.unquoted_blank_append l.gap_blank, l.unquoted_quoted_tail]
  rw [(isLineOf_key _).step_of_value (hvalue ▸ hk), hvalue]
  simp [RcFile.assign, Except.map]

theorem not_mem_quoted_tail (hk : '\n' ∉ k.toList) : '\n' ∉ l.quoted k ++ l.tail := by
  have hquote : '\n' ≠ l.quote := by
    rcases l.quote_isQuote with h | h <;> rw [h] <;> decide
  have htail : '\n' ∉ l.tail := fun h => (l.tail_blank _ h).2 rfl
  simp [quoted, hquote, hk, htail]

theorem run_text (q : State) (hk : k.toList ≠ []) (hline : '\n' ∉ k.toList) :
    run q (Text.pieces '\n' (l.text k)) = .ok ⟨{ q.settings with key := some k }, none⟩ := by
  have hvalue := l.not_mem_quoted_tail hline
  rw [text, RcFile.run_blank_append l.indent_blank]
  by_cases hgap : '\n' ∈ l.gap
  · -- The value stands on a later line, and the name waits for it.
    obtain ⟨a, b, hsplit, ha⟩ := List.eq_append_cons_of_mem hgap
    have hblank := l.gap_blank
    rw [hsplit] at hblank
    have hname : '\n' ∉ "key:".toList ++ a := by simp [ha]
    have hshape : "key:".toList ++ (l.gap ++ (l.quoted k ++ l.tail)) =
        ("key:".toList ++ a) ++ '\n' :: (b ++ (l.quoted k ++ l.tail)) := by
      rw [hsplit]
      simp
    rw [hshape, Text.pieces_append_cons, RcFile.run_append, Text.pieces_of_not_mem hname,
      RcFile.run_cons, step_name q fun c hc => hblank c (List.mem_append_left _ hc)]
    change run ⟨q.settings, some .key⟩ _ = _
    rw [RcFile.run_blank_append fun c hc =>
      hblank c (List.mem_append_right _ (List.mem_cons_of_mem _ hc)), RcFile.run_line _ hvalue,
      step_value]
  · have hwhole : '\n' ∉ "key:".toList ++ (l.gap ++ (l.quoted k ++ l.tail)) := by
      simp only [List.mem_append, not_or] at hvalue ⊢
      exact ⟨by decide, hgap, hvalue⟩
    rw [RcFile.run_line q hwhole, l.step_whole q hk]

/-! ## The file -/

/-- The lines before, then the key, then the lines after. -/
def runAround (k : String) (before after : List (List Char)) : Except SettingFault State :=
  (run .start (before.flatMap (Text.pieces '\n'))).bind fun q =>
    run ⟨{ q.settings with key := some k }, none⟩ (after.flatMap (Text.pieces '\n'))

theorem run_lines (hk : k.toList ≠ []) (hline : '\n' ∉ k.toList) (before after : List (List Char)) :
    run .start (Text.lines (Text.joined '\n' (before ++ l.text k :: after))) =
      runAround k before after := by
  rw [RcFile.run_lines, Text.pieces_joined_eq_flatMap (by simp), List.flatMap_append,
    List.flatMap_cons, RcFile.run_append, runAround]
  congr 1
  funext q
  rw [RcFile.run_append, l.run_text q hk hline]
  rfl

def read (k : String) : Except ReadFault Settings :=
  match l.before.mapM Utf8.decode?, l.after.mapM Utf8.decode? with
  | some before, some after => ((runAround k before after).map State.settings).mapError .setting
  | _, _ => .error .notUtf8

theorem ofEntry_bytes (hk : k.toList ≠ []) (hline : '\n' ∉ k.toList) :
    Settings.ofEntry (.file (l.bytes k)) = l.read k := by
  rw [Settings.ofEntry, bytes, Utf8.decode?_lines, List.mapM_append, Utf8.mapM_decode?_cons,
    Utf8.decode?_encode, read]
  cases l.before.mapM Utf8.decode? with
  | none => rfl
  | some before =>
    cases l.after.mapM Utf8.decode? with
    | none => rfl
    | some after =>
      change ((run .start (Text.lines (String.ofList
        (Text.joined '\n' (before ++ l.text k :: after))).toList)).map State.settings).mapError
          ReadFault.setting = _
      rw [String.toList_ofList, l.run_lines hk hline]

end KeyLine

end Portal

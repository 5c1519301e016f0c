import Portal.Proofs.Config.Lines

/-!
# The kinds of lines

A line is ignored, or it names a setting, or it does neither. What it does to the state follows from
its kind, and for a line that names no setting also from what waits.
-/

namespace Portal.RcFile

open Text (isBlank)

variable {name : Name} {line value : List Char}

/-- The name as it is written. -/
def Name.text : Name → String
  | .url => "url"
  | .key => "key"
  | .verify => "verify"
  | .timeout => "timeout"

/-- Nothing but blanks, or a comment after them. -/
inductive IsIgnored : List Char → Prop
  | blank {line : List Char} (h : ∀ c ∈ line, isBlank c = true) : IsIgnored line
  | comment (indent text : List Char) (h : ∀ c ∈ indent, isBlank c = true) :
      IsIgnored (indent ++ '#' :: text)

/-- No colon, or what is before the first one is no name of a setting. -/
inductive IsUnknown : List Char → Prop
  | bare {line : List Char} (h : ':' ∉ line) : IsUnknown line
  | named (name value : List Char) (hcolon : ':' ∉ name)
      (h : String.ofList (Text.trim name) ∉ ["url", "key", "verify", "timeout"]) :
      IsUnknown (name ++ ':' :: value)

/-- The name of a setting before the first colon, with blanks around it or not, and `value` after
it. -/
inductive IsLineOf (name : Name) (value : List Char) : List Char → Prop
  | named (label : List Char) (hcolon : ':' ∉ label)
      (h : String.ofList (Text.trim label) = name.text) : IsLineOf name value (label ++ ':' :: value)

/-! ## Ignored lines -/

theorem isIgnored_iff (line : List Char) :
    IsIgnored line ↔ isComment (Text.trim line) = true := by
  constructor
  · rintro (h | ⟨indent, text, h⟩)
    · rw [(Text.trim_eq_nil_iff line).mpr (List.all_eq_true.mpr h)]
      rfl
    · rw [Text.trim_blank_append h, Text.trim_cons (by decide)]
      rfl
  · intro h
    obtain ⟨indent, hindent, hline⟩ := Text.append_trimStart line
    cases hstart : Text.trimStart line with
    | nil =>
      rw [hstart, List.append_nil] at hline
      exact .blank (hline ▸ hindent)
    | cons c text =>
      rw [← Text.trim_trimStart, hstart, Text.trim_cons (Text.isBlank_of_trimStart hstart)] at h
      obtain rfl : c = '#' := by simpa [isComment] using h
      rw [← hline, hstart]
      exact .comment indent text hindent

instance : DecidablePred IsIgnored :=
  fun line => decidable_of_iff _ (isIgnored_iff line).symm

theorem step_of_ignored (h : IsIgnored line) (q : State) : step q line = .ok q := by
  rw [step, trimmedLine, if_pos ((isIgnored_iff line).mp h)]

/-! ## Names -/

theorem ofChars?_eq_some_iff {s : List Char} :
    Name.ofChars? s = some name ↔ String.ofList s = name.text := by
  unfold Name.ofChars?
  split <;> cases name <;> simp_all [Name.text]

theorem ofChars?_eq_none_iff {s : List Char} :
    Name.ofChars? s = none ↔ String.ofList s ∉ ["url", "key", "verify", "timeout"] := by
  unfold Name.ofChars?
  split <;> simp_all

theorem isUnknown_or_isLineOf (line : List Char) :
    IsUnknown line ∨ ∃ name value, IsLineOf name value line := by
  by_cases hcolon : ':' ∈ line
  · obtain ⟨label, value, rfl, hlabel⟩ := List.eq_append_cons_of_mem hcolon
    cases hname : Name.ofChars? (Text.trim label) with
    | none => exact Or.inl (.named label value hlabel (ofChars?_eq_none_iff.mp hname))
    | some name => exact Or.inr ⟨name, value, .named label hlabel (ofChars?_eq_some_iff.mp hname)⟩
  · exact Or.inl (.bare hcolon)

theorem colon_not_mem_text (name : Name) : ':' ∉ name.text.toList := by
  cases name <;> decide

theorem isLineOf_text (name : Name) (value : List Char) :
    IsLineOf name value (name.text.toList ++ ':' :: value) :=
  .named name.text.toList (colon_not_mem_text name) (by cases name <;> rfl)

theorem splitOnce_trim {label : List Char} (h : ':' ∉ label) (value : List Char) :
    Text.splitOnce ':' (Text.trim (label ++ ':' :: value)) =
      some (Text.trimStart label, Text.dropEndWhile isBlank value) := by
  rw [Text.trim_append_cons (by decide),
    Text.splitOnce_append_cons fun hmem => h (Text.trimStart_subset label hmem)]

theorem name?_of_unknown (h : IsUnknown line) : name? (Text.trim line) = none := by
  cases h with
  | bare h =>
    rw [name?, Text.splitOnce_of_not_mem fun hmem => h (Text.trim_subset line hmem)]
    rfl
  | named label value hcolon h =>
    rw [name?, splitOnce_trim hcolon]
    change Name.ofChars? (Text.trim (Text.trimStart label)) = none
    rw [Text.trim_trimStart, ofChars?_eq_none_iff.mpr h]

theorem IsLineOf.name? (h : IsLineOf name value line) :
    RcFile.name? (Text.trim line) = some name := by
  obtain ⟨label, hcolon, h⟩ := h
  rw [RcFile.name?, splitOnce_trim hcolon]
  change Name.ofChars? (Text.trim (Text.trimStart label)) = some name
  rw [Text.trim_trimStart, ofChars?_eq_some_iff.mpr h]

/-! ## Quotes -/

theorem unquoted_trim (s : List Char) : unquoted (Text.trim s) = unquoted s := by
  rw [unquoted, unquoted, Text.trim_trim]

theorem unquoted_dropEndWhile (s : List Char) :
    unquoted (Text.dropEndWhile isBlank s) = unquoted s := by
  rw [unquoted, unquoted, Text.trim_dropEndWhile]

theorem unquoted_blank_append {a : List Char} (h : ∀ c ∈ a, isBlank c = true) (s : List Char) :
    unquoted (a ++ s) = unquoted s := by
  rw [unquoted, unquoted, Text.trim_blank_append h]

theorem unquoted_append_blank {b : List Char} (h : ∀ c ∈ b, isBlank c = true) (s : List Char) :
    unquoted (s ++ b) = unquoted s := by
  rw [unquoted, unquoted, Text.trim_append_blank h]

theorem unquoted_of_blank {s : List Char} (h : ∀ c ∈ s, isBlank c = true) : unquoted s = [] := by
  rw [unquoted, (Text.trim_eq_nil_iff s).mpr (List.all_eq_true.mpr h)]
  rfl

theorem eq_of_enclosedBy? {q : Char} {s t : List Char} (h : Text.enclosedBy? q s = some t) :
    s = q :: t ++ [q] := by
  cases s with
  | nil => cases h
  | cons c u =>
    rw [Text.enclosedBy?] at h
    split at h
    · next hq =>
      obtain ⟨rfl, hlast⟩ := hq
      obtain ⟨v, rfl⟩ := List.getLast?_eq_some_iff.mp hlast
      rw [List.dropLast_concat, Option.some.injEq] at h
      rw [h, List.cons_append]
    · cases h

theorem unquoted_eq_nil_iff (s : List Char) :
    unquoted s = [] ↔ Text.trim s = [] ∨ Text.trim s ∈ [['"', '"'], ['\'', '\'']] := by
  -- Blanks give no value, and neither does a pair of quotes with nothing between them.
  rw [unquoted]
  generalize Text.trim s = u
  constructor
  · intro h
    cases hdouble : Text.enclosedBy? '"' u with
    | some t =>
      simp only [hdouble] at h
      subst h
      exact Or.inr (by simp [eq_of_enclosedBy? hdouble])
    | none =>
      simp only [hdouble] at h
      cases hsingle : Text.enclosedBy? '\'' u with
      | some t =>
        rw [hsingle, Option.getD_some] at h
        subst h
        exact Or.inr (by simp [eq_of_enclosedBy? hsingle])
      | none =>
        rw [hsingle, Option.getD_none] at h
        exact Or.inl h
  · rintro (rfl | h)
    · rfl
    · simp only [List.mem_cons, List.not_mem_nil, or_false] at h
      rcases h with rfl | rfl <;> rfl

def IsQuote (c : Char) : Prop :=
  c = '"' ∨ c = '\''

namespace IsQuote

variable {c : Char}

theorem not_blank (h : IsQuote c) : isBlank c = false := by
  rcases h with rfl | rfl <;> decide

theorem trim_quoted (h : IsQuote c) (s : List Char) :
    Text.trim (c :: s ++ [c]) = c :: s ++ [c] :=
  Text.trim_eq_self h.not_blank h.not_blank s

theorem unquoted_quoted (h : IsQuote c) (s : List Char) :
    unquoted (c :: s ++ [c]) = s := by
  rw [unquoted, h.trim_quoted]
  rcases h with rfl | rfl <;> simp [Text.enclosedBy?]

theorem ofChars?_cons (h : IsQuote c) (s : List Char) : Name.ofChars? (c :: s) = none := by
  rw [Option.eq_none_iff_forall_ne_some]
  intro name hname
  have hchars := congrArg String.toList (ofChars?_eq_some_iff.mp hname)
  rw [String.toList_ofList] at hchars
  rcases h with rfl | rfl <;> cases name <;> cases hchars

theorem isUnknown (h : IsQuote c) (s : List Char) : IsUnknown (c :: s) := by
  -- A quoted value never looks like a name, whatever it holds.
  have hne : ':' ≠ c := by rcases h with rfl | rfl <;> decide
  by_cases hcolon : ':' ∈ s
  · obtain ⟨a, b, rfl, ha⟩ := List.eq_append_cons_of_mem hcolon
    have hname : Name.ofChars? (Text.trim (c :: a)) = none := by
      rw [Text.trim_cons h.not_blank, h.ofChars?_cons]
    exact .named (c :: a) b (by simp [hne, ha]) (ofChars?_eq_none_iff.mp hname)
  · exact .bare (by simp [hne, hcolon])

theorem not_ignored (h : IsQuote c) (s : List Char) : ¬ IsIgnored (c :: s) := by
  rw [isIgnored_iff, Text.trim_cons h.not_blank]
  rcases h with rfl | rfl <;> exact Bool.false_ne_true

end IsQuote

/-! ## What a line does -/

theorem nameLine_of_unknown (h : IsUnknown line) (s : Settings) :
    nameLine s (Text.trim line) = .ok ⟨s, none⟩ := by
  cases h with
  | bare h =>
    rw [nameLine, Text.splitOnce_of_not_mem fun hmem => h (Text.trim_subset line hmem)]
  | named label value hcolon h =>
    rw [nameLine, splitOnce_trim hcolon]
    simp only [Text.trim_trimStart, ofChars?_eq_none_iff.mpr h]

theorem step_of_unknown (h : IsUnknown line) {q : State} (hq : q.waiting = none) :
    step q line = .ok q := by
  -- Where a name waits such a line would be its value.
  obtain ⟨s, waiting⟩ := q
  subst hq
  rw [step, trimmedLine]
  split
  · rfl
  · exact nameLine_of_unknown h s

theorem step_of_waiting (h : IsUnknown line) (hcounts : ¬ IsIgnored line) (s : Settings) :
    step ⟨s, some name⟩ line =
      (assign s name (unquoted line)).map fun s => ⟨s, none⟩ := by
  have hcomment : isComment (Text.trim line) = false :=
    Bool.eq_false_iff.mpr fun hc => hcounts ((isIgnored_iff line).mpr hc)
  rw [step, trimmedLine, hcomment, name?_of_unknown h, unquoted_trim]
  rfl

namespace IsLineOf

theorem not_unknown (h : IsLineOf name value line) : ¬ IsUnknown line := by
  intro hunknown
  have hname := h.name?
  rw [name?_of_unknown hunknown] at hname
  cases hname

theorem not_ignored (h : IsLineOf name value line) : ¬ IsIgnored line := by
  obtain ⟨label, hcolon, h⟩ := h
  obtain ⟨b, -, hlabel⟩ := Text.trim_append label
  have hname : Text.trim label = name.text.toList := by rw [← h, String.toList_ofList]
  rw [isIgnored_iff, Text.trim_append_cons (by decide), ← hlabel, hname]
  cases name <;> exact Bool.false_ne_true

theorem value_unique {value' : List Char} (h : IsLineOf name value line)
    (h' : IsLineOf name value' line) : value = value' := by
  obtain ⟨label, hcolon, -⟩ := h
  generalize hline : label ++ ':' :: value = line at h'
  obtain ⟨label', hcolon', -⟩ := h'
  have hsplit := Text.splitOnce_append_cons hcolon value
  rw [hline, Text.splitOnce_append_cons hcolon' value'] at hsplit
  exact (congrArg Prod.snd (Option.some.inj hsplit)).symm

theorem step (h : IsLineOf name value line) (q : State) :
    RcFile.step q line =
      if (unquoted value).isEmpty then .ok ⟨q.settings, if name.mayWait then some name else none⟩
      else (assign q.settings name (unquoted value)).map fun s => ⟨s, none⟩ := by
  have hcomment : isComment (Text.trim line) = false :=
    Bool.eq_false_iff.mpr fun hc => h.not_ignored ((isIgnored_iff line).mpr hc)
  rw [step_of_name hcomment h.name?]
  obtain ⟨label, hcolon, h⟩ := h
  rw [nameLine, splitOnce_trim hcolon]
  simp only [Text.trim_trimStart, ofChars?_eq_some_iff.mpr h, unquoted_dropEndWhile]

theorem step_of_empty (h : IsLineOf name value line) (hvalue : unquoted value = []) (q : State) :
    RcFile.step q line = .ok ⟨q.settings, if name.mayWait then some name else none⟩ := by
  rw [h.step, hvalue]
  rfl

theorem step_of_value (h : IsLineOf name value line) (hvalue : unquoted value ≠ []) (q : State) :
    RcFile.step q line =
      (assign q.settings name (unquoted value)).map fun s => ⟨s, none⟩ := by
  rw [h.step, if_neg (by simpa using hvalue)]

end IsLineOf

/-- All that a line can come to when it is read. -/
inductive Reads (q : State) (line : List Char) : State → Prop
  | skipped (h : IsIgnored line) : Reads q line q
  | unasked (h : IsUnknown line) (hq : q.waiting = none) : Reads q line q
  | below {name : Name} {s : Settings} (h : IsUnknown line) (hcounts : ¬ IsIgnored line)
      (hq : q.waiting = some name) (hs : assign q.settings name (unquoted line) = .ok s) :
      Reads q line ⟨s, none⟩
  | alone {name : Name} {value : List Char} (h : IsLineOf name value line)
      (hvalue : unquoted value = []) :
      Reads q line ⟨q.settings, if name.mayWait then some name else none⟩
  | beside {name : Name} {value : List Char} {s : Settings} (h : IsLineOf name value line)
      (hvalue : unquoted value ≠ []) (hs : assign q.settings name (unquoted value) = .ok s) :
      Reads q line ⟨s, none⟩

theorem reads_of_step {q q' : State} (h : step q line = .ok q') : Reads q line q' := by
  by_cases hignored : IsIgnored line
  · rw [step_of_ignored hignored] at h
    cases h
    exact .skipped hignored
  rcases isUnknown_or_isLineOf line with hunknown | ⟨name, value, hline⟩
  · obtain ⟨s, waiting⟩ := q
    cases waiting with
    | none =>
      rw [step_of_unknown hunknown rfl] at h
      cases h
      exact .unasked hunknown rfl
    | some name =>
      rw [step_of_waiting hunknown hignored] at h
      obtain ⟨s', hs, rfl⟩ := exists_of_map_eq_ok h
      exact .below hunknown hignored rfl hs
  · by_cases hvalue : unquoted value = []
    · rw [hline.step_of_empty hvalue] at h
      cases h
      exact .alone hline hvalue
    · rw [hline.step_of_value hvalue] at h
      obtain ⟨s', hs, rfl⟩ := exists_of_map_eq_ok h
      exact .beside hline hvalue hs

end Portal.RcFile

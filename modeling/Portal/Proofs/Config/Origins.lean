import Mathlib.Data.List.Induction
import Portal.Proofs.Config.Concatenation
import Portal.Proofs.Config.LineKinds

/-!
# Where settings come from

Each setting that a file gives was said last by one of its lines, and that line stands in its place:
it names the setting itself, or it follows a line that has nothing but the name. There is one way
around this. A name with a pair of quotes and nothing between them waits as well, and the next line
becomes its value.
-/

namespace Portal

/-! ## Settings by name -/

namespace RcFile

def Name.Value : Name → Type
  | .url | .key => String
  | .verify => Bool
  | .timeout => Duration

/-- What a text says where the value of the name is asked for. -/
def Name.read : (name : Name) → List Char → Except SettingFault name.Value
  | .url, s | .key, s => .ok (String.ofList s)
  | .verify, s => readBool s
  | .timeout, s => readTimeout s

end RcFile

def Settings.get? (s : Settings) : (name : RcFile.Name) → Option name.Value
  | .url => s.url
  | .key => s.key
  | .verify => s.verify
  | .timeout => s.timeout

namespace RcFile

variable {name : Name} {x : name.Value}

@[simp]
theorem get?_empty (name : Name) : Settings.empty.get? name = none := by
  cases name <;> rfl

theorem get?_or (s t : Settings) (name : Name) :
    (s.or t).get? name = (s.get? name).or (t.get? name) := by
  cases name <;> rfl

theorem read_of_assign {other : Name} {value : List Char} {s : Settings}
    (h : assign .empty other value = .ok s) (hx : s.get? name = some x) :
    other = name ∧ name.read value = .ok x := by
  cases other with
  | url | key =>
    cases h
    cases name <;> cases hx
    exact ⟨rfl, rfl⟩
  | verify =>
    obtain ⟨b, hread, hs⟩ := exists_of_bind_eq_ok h
    cases hs
    cases name <;> cases hx
    exact ⟨rfl, hread⟩
  | timeout =>
    obtain ⟨d, hread, hs⟩ := exists_of_bind_eq_ok h
    cases hs
    cases name <;> cases hx
    exact ⟨rfl, hread⟩

/-! ## The line that gives a setting -/

/-- Read after the lines before it, the line gives `x` to the name, whatever was said so far. -/
def Sets (earlier : List (List Char)) (line : List Char) (name : Name) (x : name.Value) : Prop :=
  ∃ q q', run .start earlier = .ok q ∧ step ⟨.empty, q.waiting⟩ line = .ok q' ∧
    q'.settings.get? name = some x

/-- Of all lines that give the name a value, `line` is the last one. -/
structure IsTakenFrom (lines earlier : List (List Char)) (line : List Char)
    (later : List (List Char)) (name : Name) (x : name.Value) : Prop where
  lines_eq : lines = earlier ++ line :: later
  sets : Sets earlier line name x
  last : ∀ a next b y, later = a ++ next :: b → ¬ Sets (earlier ++ line :: a) next name y

/-- The closest line before that is not ignored. -/
def lastCounting? (earlier : List (List Char)) : Option (List Char) :=
  earlier.reverse.find? fun line => ¬ IsIgnored line

/-- Where the value of a setting may stand: after the name and its colon, or on the next line that
counts after one with the name, the colon and nothing more. `value` is the text that is read. -/
inductive ValuePlace (name : Name) (earlier : List (List Char)) (line : List Char) : List Char → Prop
  | beside {value : List Char} (h : IsLineOf name value line)
      (hvalue : ∃ c ∈ value, Text.isBlank c = false) : ValuePlace name earlier line value
  | below {label blanks : List Char} (hlabel : lastCounting? earlier = some label)
      (h : IsLineOf name blanks label) (hblanks : ∀ c ∈ blanks, Text.isBlank c = true) :
      ValuePlace name earlier line line

/-- The line names no setting, and the closest one that counts before it has the name, and a pair of
quotes with nothing between them. -/
def FollowsEmptyQuotes (name : Name) (earlier : List (List Char)) (line : List Char) : Prop :=
  IsUnknown line ∧ ∃ label value, lastCounting? earlier = some label ∧ IsLineOf name value label ∧
    Text.trim value ∈ [['"', '"'], ['\'', '\'']]

/-! ## What a line says -/

theorem lastCounting?_concat (earlier : List (List Char)) (line : List Char) :
    lastCounting? (earlier ++ [line]) =
      if IsIgnored line then lastCounting? earlier else some line := by
  rw [lastCounting?, List.reverse_append]
  by_cases h : IsIgnored line <;> simp [h, lastCounting?]

theorem waiting_of_run {lines : List (List Char)} {q : State} (h : run .start lines = .ok q)
    (hwaits : q.waiting = some name) :
    name.mayWait = true ∧ ∃ label value, lastCounting? lines = some label ∧
      IsLineOf name value label ∧ unquoted value = [] := by
  -- A name waits after the line with it and no value, and after what is ignored then.
  induction lines using List.reverseRecOn generalizing q with
  | nil =>
    obtain rfl : State.start = q := Except.ok.inj h
    cases hwaits
  | append_singleton lines line ih =>
    obtain ⟨p, hp, hstep⟩ := exists_of_run_concat h
    rw [lastCounting?_concat]
    cases reads_of_step hstep with
    | skipped hignored =>
      rw [if_pos hignored]
      exact ih hp hwaits
    | unasked _ hnone => rw [hnone] at hwaits; cases hwaits
    | below => cases hwaits
    | beside => cases hwaits
    | @alone other value hline hvalue =>
      rw [if_neg hline.not_ignored]
      dsimp only at hwaits
      split at hwaits
      · next hmay =>
        cases hwaits
        exact ⟨hmay, line, value, rfl, hline, hvalue⟩
      · cases hwaits

theorem place_of_sets {earlier : List (List Char)} {line : List Char} (h : Sets earlier line name x) :
    (∃ value, IsLineOf name value line ∧ unquoted value ≠ [] ∧
      name.read (unquoted value) = .ok x) ∨
    (IsUnknown line ∧ name.read (unquoted line) = .ok x ∧ name.mayWait = true ∧
      ∃ label value, lastCounting? earlier = some label ∧ IsLineOf name value label ∧
        unquoted value = []) := by
  -- A line gives the value that stands on it, after the name or after a line with the name.
  obtain ⟨q, q', hq, hstep, hx⟩ := h
  cases reads_of_step hstep with
  | skipped | unasked | alone => rw [get?_empty] at hx; cases hx
  | below hunknown _ hwaits hs =>
    obtain ⟨rfl, hread⟩ := read_of_assign hs hx
    exact Or.inr ⟨hunknown, hread, waiting_of_run hq hwaits⟩
  | @beside other value s hline hvalue hs =>
    obtain ⟨rfl, hread⟩ := read_of_assign hs hx
    exact Or.inl ⟨value, hline, hvalue, hread⟩

/-! ## The line a setting comes from -/

theorem exists_of_run_last {lines : List (List Char)} {line : List Char} {q : State}
    (h : run .start (lines ++ [line]) = .ok q) :
    ∃ p r, run .start lines = .ok p ∧ step ⟨.empty, p.waiting⟩ line = .ok r ∧
      q.settings = r.settings.or p.settings := by
  -- The last line is read as if nothing had been said, and what was said before comes second.
  obtain ⟨p, hp, hstep⟩ := exists_of_run_concat h
  have hover := step_over p.settings ⟨.empty, p.waiting⟩ line
  rw [State.over, Settings.empty_or] at hover
  obtain ⟨r, hr, rfl⟩ := exists_of_map_eq_ok (hover.symm.trans hstep)
  exact ⟨p, r, hp, hr, rfl⟩

theorem sets_iff {lines : List (List Char)} {line : List Char} {p r : State}
    (hp : run .start lines = .ok p) (hr : step ⟨.empty, p.waiting⟩ line = .ok r) :
    Sets lines line name x ↔ r.settings.get? name = some x := by
  constructor
  · rintro ⟨p', r', hp', hr', hx⟩
    obtain rfl := Except.ok.inj (hp.symm.trans hp')
    obtain rfl := Except.ok.inj (hr.symm.trans hr')
    exact hx
  · intro hx
    exact ⟨p, r, hp, hr, hx⟩

theorem IsTakenFrom.concat {lines earlier later : List (List Char)} {line next : List Char}
    (h : IsTakenFrom lines earlier line later name x) (hnext : ∀ y, ¬ Sets lines next name y) :
    IsTakenFrom (lines ++ [next]) earlier line (later ++ [next]) name x where
  lines_eq := by simp [h.lines_eq]
  sets := h.sets
  last a other b y hsplit hsets := by
    rcases List.eq_nil_or_concat b with rfl | ⟨b, z, rfl⟩
    · obtain ⟨rfl, hother⟩ := List.append_inj' hsplit rfl
      obtain rfl : next = other := List.singleton_inj.mp hother
      rw [← h.lines_eq] at hsets
      exact hnext y hsets
    · rw [List.concat_eq_append, ← List.cons_append, ← List.append_assoc] at hsplit
      exact h.last a other b y (List.append_inj' hsplit rfl).1 hsets

theorem exists_isTakenFrom {lines : List (List Char)} {q : State} (h : run .start lines = .ok q)
    (hx : q.settings.get? name = some x) :
    ∃ earlier line later, IsTakenFrom lines earlier line later name x := by
  induction lines using List.reverseRecOn generalizing q with
  | nil =>
    obtain rfl : State.start = q := Except.ok.inj h
    rw [State.start, get?_empty] at hx
    cases hx
  | append_singleton lines last ih =>
    obtain ⟨p, r, hp, hr, hsettings⟩ := exists_of_run_last h
    rw [hsettings, get?_or] at hx
    cases hlast : r.settings.get? name with
    | some y =>
      rw [hlast] at hx
      obtain rfl : y = x := Option.some.inj hx
      exact ⟨lines, last, [], rfl, (sets_iff hp hr).mpr hlast, by simp⟩
    | none =>
      rw [hlast] at hx
      obtain ⟨earlier, line, later, htaken⟩ := ih hp hx
      refine ⟨earlier, line, later ++ [last], htaken.concat ?_⟩
      intro y hy
      rw [(sets_iff hp hr).mp hy] at hlast
      cases hlast

theorem get?_of_isTakenFrom {lines earlier later : List (List Char)} {line : List Char} {q : State}
    (hq : run .start lines = .ok q) (h : IsTakenFrom lines earlier line later name x) :
    q.settings.get? name = some x := by
  induction later using List.reverseRecOn generalizing lines q with
  | nil =>
    obtain ⟨p, r, hp, hr, hsettings⟩ := exists_of_run_last (h.lines_eq ▸ hq)
    rw [hsettings, get?_or, (sets_iff hp hr).mp h.sets]
    rfl
  | append_singleton later last ih =>
    have hlines : lines = earlier ++ line :: later ++ [last] := by simp [h.lines_eq]
    obtain ⟨p, r, hp, hr, hsettings⟩ := exists_of_run_last (hlines ▸ hq)
    have hnone : r.settings.get? name = none := by
      rw [Option.eq_none_iff_forall_ne_some]
      intro y hy
      exact h.last later last [] y rfl ((sets_iff hp hr).mpr hy)
    rw [hsettings, get?_or, hnone, Option.none_or]
    refine ih hp ⟨rfl, h.sets, ?_⟩
    intro a next b y hlater
    exact h.last a next (b ++ [last]) y (by simp [hlater])

/-- The line names the setting, or follows the name alone, and the setting is what is read there. -/
def IsInPlace (name : Name) (earlier : List (List Char)) (line : List Char) (x : name.Value) :
    Prop :=
  ∃ value, ValuePlace name earlier line value ∧ name.read (unquoted value) = .ok x

theorem isInPlace_iff {earlier : List (List Char)} {line : List Char} (h : Sets earlier line name x) :
    IsInPlace name earlier line x ↔ ¬ FollowsEmptyQuotes name earlier line := by
  rcases place_of_sets h with ⟨value, hline, hvalue, hread⟩ |
    ⟨hunknown, hread, -, label, value, hlabel, hline, hvalue⟩
  · -- A line with the name is always in place.
    have hsome : ∃ c ∈ value, Text.isBlank c = false := by
      by_contra hblank
      exact hvalue (unquoted_of_blank (by simpa using hblank))
    exact iff_of_true ⟨value, .beside hline hsome, hread⟩ fun h => hline.not_unknown h.1
  · rcases (unquoted_eq_nil_iff value).mp hvalue with hblank | hquotes
    · have hblanks := List.all_eq_true.mp ((Text.trim_eq_nil_iff value).mp hblank)
      refine iff_of_true ⟨line, .below hlabel hline hblanks, hread⟩ ?_
      rintro ⟨-, label', value', hlabel', hline', hquotes⟩
      obtain rfl : label = label' := Option.some.inj (hlabel.symm.trans hlabel')
      obtain rfl := hline.value_unique hline'
      rw [hblank] at hquotes
      simp at hquotes
    · refine iff_of_false ?_ (not_not.mpr ⟨hunknown, label, value, hlabel, hline, hquotes⟩)
      rintro ⟨text, hplace, -⟩
      cases hplace with
      | beside hbeside => exact hbeside.not_unknown hunknown
      | below hlabel' hline' hblanks =>
        obtain rfl := Option.some.inj (hlabel.symm.trans hlabel')
        obtain rfl := hline.value_unique hline'
        rw [(Text.trim_eq_nil_iff _).mpr (List.all_eq_true.mpr hblanks)] at hquotes
        simp at hquotes

/-- Every setting of a file is taken from one of its lines. The line is in its place unless it follows
the name with empty quotes, and then it is not. -/
theorem setting_in_place_iff {text : String} {c : Settings} (h : parse text = .ok c)
    (hx : c.get? name = some x) :
    (∃ earlier line later, IsTakenFrom (Text.lines text.toList) earlier line later name x) ∧
      ∀ earlier line later, IsTakenFrom (Text.lines text.toList) earlier line later name x →
        (IsInPlace name earlier line x ↔ ¬ FollowsEmptyQuotes name earlier line) := by
  obtain ⟨q, hq, rfl⟩ := exists_of_map_eq_ok h
  exact ⟨exists_isTakenFrom hq hx, fun _ _ _ htaken => isInPlace_iff htaken.sets⟩

/-- A key below a name that stands alone, with a comment between them. The name had a value before. -/
def keyBelowName : List (List Char) :=
  ["key: 'old'".toList, "key:".toList, "  # kept apart".toList]

theorem key_below_name_in_place :
    parse "key: 'old'\nkey:\n  # kept apart\n secret" = .ok ⟨none, some "secret", none, none⟩ ∧
      IsTakenFrom (Text.lines "key: 'old'\nkey:\n  # kept apart\n secret".toList) keyBelowName
        " secret".toList [] .key "secret" ∧
      IsInPlace .key keyBelowName " secret".toList "secret" := by
  have hparse : parse "key: 'old'\nkey:\n  # kept apart\n secret" =
      .ok ⟨none, some "secret", none, none⟩ := by decide +kernel
  have htaken : IsTakenFrom (Text.lines "key: 'old'\nkey:\n  # kept apart\n secret".toList)
      keyBelowName " secret".toList [] .key "secret" := by
    refine ⟨by decide +kernel, ⟨⟨⟨none, some "old", none, none⟩, some .key⟩,
      ⟨⟨none, some "secret", none, none⟩, none⟩, by decide +kernel, by decide +kernel, rfl⟩, ?_⟩
    simp
  refine ⟨hparse, htaken, ((setting_in_place_iff hparse rfl).2 _ _ _ htaken).mpr ?_⟩
  rintro ⟨-, label, value, hlabel, hline, hquotes⟩
  have hlast : lastCounting? keyBelowName = some "key:".toList := by decide +kernel
  obtain rfl := Option.some.inj (hlast.symm.trans hlabel)
  obtain rfl := hline.value_unique (.named "key".toList (by decide) rfl : IsLineOf .key [] _)
  exact absurd hquotes (by decide)

/-- Where the key is said to be empty, the line after it becomes the key. -/
theorem empty_quotes_take_next_line :
    parse "key: \"\"\nsecret" = .ok ⟨none, some "secret", none, none⟩ ∧
      IsTakenFrom (Text.lines "key: \"\"\nsecret".toList) ["key: \"\"".toList] "secret".toList []
        .key "secret" ∧
      ¬ IsInPlace .key ["key: \"\"".toList] "secret".toList "secret" := by
  have htaken : IsTakenFrom (Text.lines "key: \"\"\nsecret".toList) ["key: \"\"".toList]
      "secret".toList [] .key "secret" := by
    refine ⟨by decide +kernel, ⟨⟨.empty, some .key⟩, ⟨⟨none, some "secret", none, none⟩, none⟩,
      by decide +kernel, by decide +kernel, rfl⟩, ?_⟩
    simp
  refine ⟨by decide +kernel, htaken, fun hplace => (isInPlace_iff htaken.sets).mp hplace ?_⟩
  exact ⟨.bare (by decide), "key: \"\"".toList, " \"\"".toList, by decide +kernel,
    .named "key".toList (by decide) rfl, by decide +kernel⟩

end RcFile

end Portal

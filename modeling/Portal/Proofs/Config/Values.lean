import Portal.Proofs.Config.LineKinds

/-!
# Values and where they stand

A value says the same on the line of its name and on the next line that counts. In quotes every text
that is not empty is a value, just as it is.
-/

namespace Portal.RcFile

/-- The text of these lines, some of which may hold line feeds themselves. -/
def ofLines (lines : List (List Char)) : String :=
  .ofList (Text.joined '\n' lines)

/-- One line that is not ignored, names no setting and does not come out empty. -/
structure IsValueLine (line : List Char) : Prop where
  oneLine : '\n' ∉ line
  counts : ¬ IsIgnored line
  unnamed : IsUnknown line
  notEmpty : unquoted line ≠ []

variable {name : Name} {line value : List Char}

theorem parse_ofLines {lines : List (List Char)} (h : lines ≠ []) :
    parse (ofLines lines) =
      (run .start (lines.flatMap (Text.pieces '\n'))).map State.settings := by
  rw [parse_eq, ofLines, String.toList_ofList, Text.pieces_joined_eq_flatMap h]

theorem lineFeed_not_mem_text (name : Name) : '\n' ∉ name.text.toList := by
  cases name <;> decide

theorem unquoted_space (s : List Char) : unquoted (' ' :: s) = unquoted s :=
  unquoted_blank_append (a := [' ']) (by simp [Text.isBlank]) s

/-! ## On the line of the name or below it -/

theorem step_beside (name : Name) (hvalue : unquoted value ≠ []) (q : State) :
    step q (name.text.toList ++ ':' :: ' ' :: value) =
      (assign q.settings name (unquoted value)).map fun s => ⟨s, none⟩ := by
  rw [← unquoted_space] at hvalue ⊢
  exact (isLineOf_text name _).step_of_value hvalue q

theorem run_ignored {lines : List (List Char)} (h : ∀ l ∈ lines, IsIgnored l) (q : State) :
    run q lines = .ok q := by
  induction lines with
  | nil => rfl
  | cons line lines ih =>
    obtain ⟨hline, hlines⟩ := List.forall_mem_cons.mp h
    rw [run_cons, step_of_ignored hline]
    exact ih hlines

theorem run_below (hname : name.mayWait = true) {skipped : List (List Char)}
    (hskipped : ∀ l ∈ skipped, IsIgnored l) (h : IsValueLine line) (q : State) :
    run q ((name.text.toList ++ [':']) :: (skipped ++ [line])) =
      (assign q.settings name (unquoted line)).map fun s => ⟨s, none⟩ := by
  have hwaits : step q (name.text.toList ++ [':']) = .ok ⟨q.settings, some name⟩ := by
    rw [(isLineOf_text name []).step_of_empty rfl, if_pos hname]
  rw [run_cons, hwaits]
  change run ⟨q.settings, some name⟩ (skipped ++ [line]) = _
  rw [run_append, run_ignored hskipped]
  change run ⟨q.settings, some name⟩ [line] = _
  rw [run_cons, step_of_waiting h.unnamed h.counts]
  cases assign q.settings name (unquoted line) <;> rfl

/-- A value on the line after its name, with blank lines and comments between them or not, is read
like the same value on the line of the name. It does not matter what stands before and after. -/
theorem parse_value_below_name (name : Name) (hname : name = .url ∨ name = .key)
    (before after : List (List Char)) {skipped : List (List Char)}
    (hskipped : ∀ l ∈ skipped, IsIgnored l ∧ '\n' ∉ l) (h : IsValueLine line) :
    parse (ofLines (before ++ (name.text.toList ++ [':']) :: (skipped ++ line :: after))) =
      parse (ofLines (before ++ (name.text.toList ++ ':' :: ' ' :: line) :: after)) := by
  have hwait : name.mayWait = true := by rcases hname with rfl | rfl <;> rfl
  have hbelow : ∀ l ∈ (name.text.toList ++ [':']) :: (skipped ++ [line]), '\n' ∉ l := by
    intro l hl
    simp only [List.mem_cons, List.mem_append, List.not_mem_nil, or_false] at hl
    rcases hl with rfl | hl | rfl
    · simp [lineFeed_not_mem_text]
    · exact (hskipped l hl).2
    · exact h.oneLine
  have hbeside : '\n' ∉ name.text.toList ++ ':' :: ' ' :: line := by
    simp [lineFeed_not_mem_text, h.oneLine]
  have hpieces : ((name.text.toList ++ [':']) :: (skipped ++ line :: after)).flatMap
      (Text.pieces '\n') =
        (name.text.toList ++ [':']) :: (skipped ++ [line]) ++ after.flatMap (Text.pieces '\n') := by
    rw [← Text.flatMap_pieces hbelow, ← List.flatMap_append]
    simp
  rw [parse_ofLines (by simp), parse_ofLines (by simp), List.flatMap_append, List.flatMap_append,
    hpieces, List.flatMap_cons, Text.pieces_of_not_mem hbeside, run_append, run_append]
  congr 2
  funext q
  rw [run_append, run_below hwait (fun l hl => (hskipped l hl).1) h, List.singleton_append, run_cons,
    step_beside name h.notEmpty]

/-- An address with a colon in it, between blanks and in quotes. -/
def addressLine : List Char :=
  " 'http://a:8080/' ".toList

theorem addressLine_isValueLine : IsValueLine addressLine where
  oneLine := by decide
  counts := by decide +kernel
  unnamed := .named " 'http".toList "//a:8080/' ".toList (by decide) (by decide)
  notEmpty := by decide +kernel

theorem address_below_name_and_comment :
    IsValueLine addressLine ∧
      parse (ofLines (["verify: 1\nkey:".toList] ++ "url:".toList ::
        (["".toList, "  # the lake".toList] ++ addressLine :: ["timeout: 2".toList]))) =
          .ok ⟨some "http://a:8080/", none, some true, some (.ofSeconds 2)⟩ := by
  -- The name before it waits as well, and gets nothing.
  refine ⟨addressLine_isValueLine, ?_⟩
  refine (parse_value_below_name .url (Or.inl rfl) ["verify: 1\nkey:".toList]
    ["timeout: 2".toList] ?_ addressLine_isValueLine).trans (by decide +kernel)
  intro l hl
  simp only [List.mem_cons, List.not_mem_nil, or_false] at hl
  rcases hl with rfl | rfl <;> decide +kernel

/-! ## In quotes -/

def inQuotes (quote : Char) (value : String) : String :=
  .ofList (quote :: value.toList ++ [quote])

theorem parse_append_setting {t : String} {c : Settings} (ht : parse t = .ok c)
    (hline : '\n' ∉ value) (hvalue : unquoted value ≠ []) (name : Name) :
    parse (.ofList (t.toList ++ '\n' :: (name.text.toList ++ ':' :: ' ' :: value))) =
      assign c name (unquoted value) := by
  have hone : '\n' ∉ name.text.toList ++ ':' :: ' ' :: value := by
    simp [lineFeed_not_mem_text, hline]
  rw [parse_eq] at ht ⊢
  rw [String.toList_ofList, Text.pieces_append_cons, run_append]
  obtain ⟨q, hrun, rfl⟩ := exists_of_map_eq_ok ht
  rw [hrun]
  change (run q _).map State.settings = _
  rw [run_line q hone, step_beside name hvalue]
  cases assign q.settings name (unquoted value) <;> rfl

theorem parse_append_inQuotes {t value : String} {c : Settings} {quote : Char}
    (ht : parse t = .ok c) (hquote : IsQuote quote) (hvalue : value ≠ "")
    (hline : '\n' ∉ value.toList) (name : Name) :
    parse (t ++ ("\n" ++ name.text ++ ": ") ++ inQuotes quote value) =
      assign c name value.toList := by
  have hone : '\n' ∉ quote :: value.toList ++ [quote] := by
    have hne : '\n' ≠ quote := by rcases hquote with rfl | rfl <;> decide
    simp [hne, hline]
  have hsome : unquoted (quote :: value.toList ++ [quote]) ≠ [] := by
    rw [hquote.unquoted_quoted]
    simpa using hvalue
  have htext : t ++ ("\n" ++ name.text ++ ": ") ++ inQuotes quote value =
      .ofList (t.toList ++ '\n' :: (name.text.toList ++ ':' :: ' ' ::
        (quote :: value.toList ++ [quote]))) := by
    rw [← String.toList_inj]
    simp [inQuotes]
  rw [htext, parse_append_setting ht hone hsome, hquote.unquoted_quoted]

/-- After a file that can be read, one more line gives an address or a key any value that is not
empty and has no line feed in it. The value stands in quotes of either kind, whatever characters it
has, and nothing else changes, also where a name still waited for a value. -/
theorem parse_append_quoted {t value : String} {c : Settings} {quote : Char} (ht : parse t = .ok c)
    (hquote : IsQuote quote) (hvalue : value ≠ "") (hline : '\n' ∉ value.toList) :
    parse (t ++ "\nurl: " ++ inQuotes quote value) = .ok { c with url := some value } ∧
      parse (t ++ "\nkey: " ++ inQuotes quote value) = .ok { c with key := some value } := by
  have hread := parse_append_inQuotes ht hquote hvalue hline
  refine ⟨(hread .url).trans ?_, (hread .key).trans ?_⟩
  · simp only [assign, String.ofList_toList]
  · simp only [assign, String.ofList_toList]

theorem odd_key_is_read_as_it_is :
    parse "verify: no\nurl:" = .ok ⟨none, none, some false, none⟩ ∧
      parse ("verify: no\nurl:" ++ "\nkey: " ++ inQuotes '\'' " url: 'a\"#\\ ") =
        .ok ⟨none, some " url: 'a\"#\\ ", some false, none⟩ := by
  -- Blanks, a colon, quotes of both kinds, a `#` and a backslash, after a name that waits.
  have hfile : parse "verify: no\nurl:" = .ok ⟨none, none, some false, none⟩ := by decide +kernel
  exact ⟨hfile, (parse_append_quoted hfile (Or.inr rfl) (by decide) (by decide)).2⟩

end Portal.RcFile

import Portal.Proofs.Config.Origins
import Portal.Proofs.Config.Resolution
import Portal.Proofs.Time.Seconds

/-!
# Positive timeouts

A timeout is compared with zero before it is rounded to nanoseconds. What is positive and no more
than half a nanosecond passes, and no time is left of it.
-/

namespace Portal

/-- Read as a double it is more than nothing, and at most half a nanosecond. -/
def IsTiny (text : List Char) : Prop :=
  ∃ x, Number.Reading.ofChars? (Text.trim text) = some (.finite x) ∧ 0 < x.value ∧
    x.value * 1000000000 ≤ 1 / 2

namespace RcFile

/-- The line that sets the name last has the name, and `value` after it. -/
def SaysLast (name : Name) (lines : List (List Char)) (value : List Char) : Prop :=
  ∃ earlier line later x, IsTakenFrom lines earlier line later name x ∧ IsLineOf name value line

end RcFile

namespace Sources

/-- The text that the timeout is read from: the environment has it, or else the file. -/
inductive SaysTimeout (s : Sources) : List Char → Prop
  | environment {text : String} (hgiven : s.given.timeout = none)
      (henv : s.env "BLACKLAKE_TIMEOUT" = some text) : SaysTimeout s text.toList
  | file {path : String} {bytes : List UInt8} {text value : List Char}
      (hgiven : s.given.timeout = none) (henv : s.env "BLACKLAKE_TIMEOUT" = none)
      (hfile : s.file? = some (path, .file bytes)) (htext : Utf8.decode? bytes = some text)
      (hvalue : RcFile.SaysLast .timeout (Text.lines text) value) :
      SaysTimeout s (RcFile.unquoted value)

/-- The timeout is what its text is read as, and without any it is the one that is given or the
default. -/
structure TakesTimeout (s : Sources) (d : Duration) : Prop where
  of_text : ∀ text, s.SaysTimeout text → readTimeout text = .ok d
  of_no_text : (∀ text, ¬ s.SaysTimeout text) → d = s.given.timeout.getD (.ofSeconds 30)

end Sources

/-! ## Reading a timeout -/

namespace Duration

theorem roundedNanos_pos_iff (x : Rat) :
    0 < (Number.halfEven (x * 1000000000)).toNat ↔ 1 / 2 < x * 1000000000 := by
  have hround := Number.lt_halfEven_iff (n := 0) rfl (x * 1000000000)
  rw [Int.cast_zero, zero_add] at hround
  rw [← hround]
  omega

end Duration

theorem readTimeout_eq_ok_iff {text : List Char} {d : Duration} :
    readTimeout text = .ok d ↔
      ∃ x, Number.Reading.ofChars? (Text.trim text) = some (.finite x) ∧ 0 < x.value ∧
        d.nanos = (Number.halfEven (x.value * 1000000000)).toNat := by
  unfold readTimeout
  generalize Text.trim text = s
  constructor
  · intro h
    dsimp only at h
    split at h
    · cases h
    split at h
    · cases h
    · next x hx =>
      split at h
      · cases h
      · next hpos =>
        split at h
        · next d' hd =>
          obtain rfl := Except.ok.inj h
          have hlt := not_le.mp hpos
          exact ⟨x, hx, hlt, (Duration.ofSeconds?_eq_some_iff hlt.le).mp hd⟩
        · cases h
    · cases h
  · rintro ⟨x, hx, hpos, hd⟩
    -- An empty text is no number.
    have hsome : s.isEmpty = false := by
      cases s with
      | nil => cases hx
      | cons c s => rfl
    simp only [hsome, hx, if_neg (not_le.mpr hpos),
      (Duration.ofSeconds?_eq_some_iff hpos.le).mpr hd]
    rfl

theorem readTimeout_pos_iff (text : List Char) :
    (∀ d, readTimeout text = .ok d → 0 < d.nanos) ↔ ¬ IsTiny text := by
  constructor
  · rintro h ⟨x, hx, hpos, hsmall⟩
    have hzero : (Number.halfEven (x.value * 1000000000)).toNat = 0 := by
      rw [← Nat.le_zero, ← not_lt, Duration.roundedNanos_pos_iff]
      exact not_lt.mpr hsmall
    exact lt_irrefl 0 (h ⟨0, by decide⟩ (readTimeout_eq_ok_iff.mpr ⟨x, hx, hpos, hzero.symm⟩))
  · intro htiny d hd
    obtain ⟨x, hx, hpos, hnanos⟩ := readTimeout_eq_ok_iff.mp hd
    rw [hnanos, Duration.roundedNanos_pos_iff]
    exact not_le.mp fun hsmall => htiny ⟨x, hx, hpos, hsmall⟩

/-! ## The line of a timeout -/

namespace RcFile

variable {name : Name} {x : name.Value}

theorem line_of_sets (hname : name.mayWait = false) {earlier : List (List Char)} {line : List Char}
    (h : Sets earlier line name x) :
    ∃ value, IsLineOf name value line ∧ name.read (unquoted value) = .ok x := by
  rcases place_of_sets h with ⟨value, hline, -, hread⟩ | ⟨-, -, hwaits, -⟩
  · exact ⟨value, hline, hread⟩
  · rw [hname] at hwaits
    cases hwaits

theorem get?_eq_some_iff (hname : name.mayWait = false) {text : List Char} {c : Settings}
    (h : parse (.ofList text) = .ok c) :
    c.get? name = some x ↔
      ∃ value, SaysLast name (Text.lines text) value ∧ name.read (unquoted value) = .ok x := by
  obtain ⟨q, hq, rfl⟩ := exists_of_map_eq_ok h
  rw [String.toList_ofList] at hq
  constructor
  · intro hx
    obtain ⟨earlier, line, later, htaken⟩ := exists_isTakenFrom hq hx
    obtain ⟨value, hline, hread⟩ := line_of_sets hname htaken.sets
    exact ⟨value, ⟨earlier, line, later, x, htaken, hline⟩, hread⟩
  · rintro ⟨value, ⟨earlier, line, later, y, htaken, hline⟩, hread⟩
    obtain ⟨value', hline', hread'⟩ := line_of_sets hname htaken.sets
    obtain rfl := hline.value_unique hline'
    obtain rfl := Except.ok.inj (hread'.symm.trans hread)
    exact get?_of_isTakenFrom hq htaken

theorem SaysLast.exists_read (hname : name.mayWait = false) {lines : List (List Char)}
    {value : List Char} (h : SaysLast name lines value) :
    ∃ x, name.read (unquoted value) = .ok x := by
  obtain ⟨earlier, line, later, x, htaken, hline⟩ := h
  obtain ⟨value', hline', hread⟩ := line_of_sets hname htaken.sets
  obtain rfl := hline.value_unique hline'
  exact ⟨x, hread⟩

end RcFile

/-! ## Loading a timeout -/

namespace Sources

variable {s : Sources} {c : ClientConfig}

theorem readTimeout_of_faultless {text : String} (hfault : s.timeoutFault? = none)
    (hgiven : s.given.timeout = none) (henv : s.env "BLACKLAKE_TIMEOUT" = some text) :
    readTimeout text.toList = .ok s.timeout := by
  rw [timeoutFault?, hgiven, henv, asked, faultIn, Option.bind_some] at hfault
  rw [timeout, hgiven, henv, first_none, said, Option.bind_some]
  cases hread : readTimeout text.toList with
  | error fault => simp [hread] at hfault
  | ok d => rfl

theorem parse_of_faultless {path : String} {entry : Entry} (hfault : s.fileFault? = none)
    (hfile : s.file? = some (path, entry)) :
    ∃ bytes text, entry = .file bytes ∧ Utf8.decode? bytes = some text ∧
      RcFile.parse (.ofList text) = .ok s.fromFile := by
  rw [fileFault?, hfile, Option.bind_some] at hfault
  rw [fromFile, hfile, Option.bind_some]
  cases hentry : Settings.ofEntry entry with
  | error fault => simp [hentry] at hfault
  | ok found =>
    cases entry with
    | directory | locked reason => cases hentry
    | file bytes =>
      cases htext : Utf8.decode? bytes with
      | none => simp [Settings.ofEntry, htext] at hentry
      | some text =>
        simp only [Settings.ofEntry, htext] at hentry
        exact ⟨bytes, text, rfl, htext, eq_ok_of_mapError_eq_ok hentry⟩

theorem timeout_of_file (hgiven : s.given.timeout = none)
    (henv : s.env "BLACKLAKE_TIMEOUT" = none) :
    s.timeout = s.fromFile.timeout.getD (.ofSeconds 30) := by
  rw [timeout, hgiven, henv]
  simp [said]

theorem readTimeout_of_says (htimeout : s.timeoutFault? = none) (hfile : s.fileFault? = none)
    {text : List Char} (h : s.SaysTimeout text) : readTimeout text = .ok s.timeout := by
  cases h with
  | environment hgiven henv => exact readTimeout_of_faultless htimeout hgiven henv
  | file hgiven henv hfound htext hvalue =>
    obtain ⟨bytes, text, hbytes, hdecode, hparse⟩ := parse_of_faultless hfile hfound
    cases hbytes
    obtain rfl := Option.some.inj (hdecode.symm.trans htext)
    obtain ⟨d, hread⟩ := hvalue.exists_read rfl
    have hset : s.fromFile.timeout = some d :=
      (RcFile.get?_eq_some_iff rfl hparse).mpr ⟨_, hvalue, hread⟩
    rw [timeout_of_file hgiven henv, hset]
    exact hread

theorem timeout_of_no_text (hfile : s.fileFault? = none) (h : ∀ text, ¬ s.SaysTimeout text) :
    s.timeout = s.given.timeout.getD (.ofSeconds 30) := by
  cases hgiven : s.given.timeout with
  | some d =>
    rw [timeout, hgiven]
    rfl
  | none =>
    have henv : s.env "BLACKLAKE_TIMEOUT" = none := by
      rw [Option.eq_none_iff_forall_ne_some]
      intro text henv
      exact h _ (.environment hgiven henv)
    have hset : s.fromFile.timeout = none := by
      cases hfound : s.file? with
      | none =>
        rw [fromFile, hfound]
        rfl
      | some found =>
        obtain ⟨path, entry⟩ := found
        obtain ⟨bytes, text, rfl, htext, hparse⟩ := parse_of_faultless hfile hfound
        rw [Option.eq_none_iff_forall_ne_some]
        intro d hd
        obtain ⟨value, hvalue, -⟩ := (@RcFile.get?_eq_some_iff .timeout d rfl _ _ hparse).mp hd
        exact h _ (.file hgiven henv hfound htext hvalue)
    rw [timeout_of_file hgiven henv, hset]

theorem takesTimeout_of_resolve (h : s.resolve = .ok c) : s.TakesTimeout c.timeout := by
  obtain ⟨hnone, rfl⟩ := s.config_of_resolve h
  have hall := List.findSome?_eq_none_iff.mp hnone
  have htimeout : s.timeoutFault? = none :=
    Option.map_eq_none_iff.mp (hall (s.timeoutFault?.map .setting) (by simp))
  have hfile : s.fileFault? = none := hall s.fileFault? (by simp)
  exact ⟨fun _ htext => readTimeout_of_says htimeout hfile htext, timeout_of_no_text hfile⟩

/-- Whatever a text is accepted as is positive unless the text is tiny. The timeout of a configuration
is what its text is accepted as, if there is one, and it is zero just where that text is tiny. -/
theorem accepted_timeouts_positive_iff (s : Sources) (text : List Char) :
    ((∀ d, readTimeout text = .ok d → 0 < d.nanos) ↔ ¬ IsTiny text) ∧
      ∀ c, s.resolve = .ok c → s.TakesTimeout c.timeout ∧
        (s.SaysTimeout text → (0 < c.timeout.nanos ↔ ¬ IsTiny text)) := by
  refine ⟨readTimeout_pos_iff text, ?_⟩
  intro c h
  have htakes := takesTimeout_of_resolve h
  refine ⟨htakes, ?_⟩
  intro htext
  rw [← readTimeout_pos_iff, htakes.of_text text htext]
  simp

/-- A file says a little more than half a nanosecond. -/
def roundedUp : Sources where
  given := .empty
  env _ := none
  files _ := some (.file (Utf8.encode "timeout: '6e-10' \n".toList))
  candidates := ["lake.rc"]

theorem roundedUp_is_positive :
    roundedUp.resolve = .ok ⟨"http://localhost:8080", none, ⟨1, by decide⟩, true⟩ ∧
      roundedUp.SaysTimeout "6e-10".toList ∧ ¬ IsTiny "6e-10".toList := by
  have hresolve : roundedUp.resolve =
      .ok ⟨"http://localhost:8080", none, ⟨1, by decide⟩, true⟩ := by
    rw [resolve_eq_result]
    decide +kernel
  have htaken : RcFile.IsTakenFrom (Text.lines "timeout: '6e-10' \n".toList) []
      "timeout: '6e-10' ".toList [] .timeout (⟨1, by decide⟩ : Duration) :=
    ⟨by decide +kernel, ⟨.start, ⟨⟨none, none, none, some ⟨1, by decide⟩⟩, none⟩, rfl,
      by decide +kernel, rfl⟩, by simp⟩
  have hsays : roundedUp.SaysTimeout "6e-10".toList :=
    .file rfl rfl rfl rfl ⟨_, _, _, _, htaken, .named "timeout".toList (by decide) rfl⟩
  exact ⟨hresolve, hsays,
    (((accepted_timeouts_positive_iff roundedUp _).2 _ hresolve).2 hsays).mp (by decide)⟩

/-- The environment says a tenth of a nanosecond. -/
def roundedAway : Sources where
  given := .empty
  env
    | "BLACKLAKE_TIMEOUT" => some "1e-10"
    | _ => none
  files _ := none
  candidates := []

/-- A positive time is accepted, and loaded as no time at all. -/
theorem roundedAway_is_zero :
    IsTiny "1e-10".toList ∧ readTimeout "1e-10".toList = .ok ⟨0, by decide⟩ ∧
      roundedAway.SaysTimeout "1e-10".toList ∧
      roundedAway.resolve = .ok ⟨"http://localhost:8080", none, ⟨0, by decide⟩, true⟩ := by
  have hread : readTimeout "1e-10".toList = .ok ⟨0, by decide⟩ := by decide +kernel
  refine ⟨?_, hread, .environment rfl rfl, ?_⟩
  · by_contra htiny
    exact absurd ((readTimeout_pos_iff _).mpr htiny _ hread) (by decide)
  · rw [resolve_eq_result]
    decide +kernel

end Sources

end Portal

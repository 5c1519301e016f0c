import Portal.Config.Place
import Portal.Proofs.Text.Pieces

/-!
# Where the settings of a client come from

Every setting takes the first value that a source has for it, wherever the others come from. A
source is looked at only where those before it leave something open, and what nobody looks at does
not matter.
-/

namespace Portal

/-! ## Truth values -/

/-- A text as it counts: without blanks around it and in lower case. -/
def wordOf (text : List Char) : String :=
  .ofList (Text.lower (Text.trim text))

def IsYes (word : String) : Prop :=
  word = "1" ∨ word = "true" ∨ word = "yes" ∨ word = "on"

def IsNo (word : String) : Prop :=
  word = "0" ∨ word = "false" ∨ word = "no" ∨ word = "off"

theorem readBool_cases (text : List Char) :
    (IsYes (wordOf text) ∧ readBool text = .ok true) ∨
    (IsNo (wordOf text) ∧ readBool text = .ok false) ∨
    (¬ IsYes (wordOf text) ∧ ¬ IsNo (wordOf text) ∧
      readBool text = .error (.notBoolean (wordOf text))) := by
  unfold readBool
  rw [← wordOf]
  generalize wordOf text = word
  simp only [IsYes, IsNo]
  split <;> simp_all

theorem IsYes.not_isNo {word : String} (h : IsYes word) : ¬ IsNo word := by
  rcases h with rfl | rfl | rfl | rfl <;> simp [IsNo]

theorem readBool_eq_ok_iff {text : List Char} {b : Bool} :
    readBool text = .ok b ↔ if b then IsYes (wordOf text) else IsNo (wordOf text) := by
  obtain ⟨hword, hread⟩ | ⟨hword, hread⟩ | ⟨hyes, hno, hread⟩ := readBool_cases text
  · cases b <;> simp [hread, hword, hword.not_isNo]
  · have hyes : ¬ IsYes (wordOf text) := fun h => h.not_isNo hword
    cases b <;> simp [hread, hword, hyes]
  · cases b <;> simp [hread, hyes, hno]

theorem readBool_eq_error_iff {text : List Char} {fault : SettingFault} :
    readBool text = .error fault ↔
      ¬ IsYes (wordOf text) ∧ ¬ IsNo (wordOf text) ∧ fault = .notBoolean (wordOf text) := by
  obtain ⟨hword, hread⟩ | ⟨hword, hread⟩ | ⟨hyes, hno, hread⟩ := readBool_cases text
  · simp [hread, hword]
  · simp [hread, hword]
  · simp [hread, hyes, hno, eq_comm]

/-- All that a configuration can depend on. -/
structure Sources where
  given : Settings
  env : Environment
  files : String → Option Entry
  candidates : List String

namespace Sources

/-! ## The rules -/

/-- The first value there is. -/
def first (values : List (Option α)) : Option α :=
  values.findSome? id

/-- The text of a variable. Nobody asks for it where the setting is given. -/
def asked : (given : Option α) → (text : Option String) → Option String
  | some _, _ => none
  | none, text => text

/-- Neither given nor in the environment. -/
def IsOpen (given : Option α) (text : Option String) : Prop :=
  given.isNone ∧ text.isNone

instance (given : Option α) (text : Option String) : Decidable (IsOpen given text) :=
  inferInstanceAs (Decidable (_ ∧ _))

def said (read : List Char → Except SettingFault α) (text : Option String) : Option α :=
  text.bind fun t => (read t.toList).toOption

def faultIn (read : List Char → Except SettingFault α) (text : Option String) :
    Option SettingFault :=
  text.bind fun t =>
    match read t.toList with
    | .error fault => some fault
    | .ok _ => none

def firstFile (files : String → Option Entry) (candidates : List String) :
    Option (String × Entry) :=
  candidates.findSome? fun path => (files path).map fun entry => (path, entry)

variable (s : Sources)

def resolve : Except ConfigError ClientConfig :=
  ClientConfig.resolve s.given s.env s.files s.candidates

/-- Some setting is left to the file. -/
def NeedsFile : Prop :=
  IsOpen s.given.url (s.env "BLACKLAKE_URL") ∨ IsOpen s.given.key (s.env "BLACKLAKE_API_KEY") ∨
    IsOpen s.given.verify (s.env "BLACKLAKE_VERIFY") ∨
    IsOpen s.given.timeout (s.env "BLACKLAKE_TIMEOUT")

instance : Decidable s.NeedsFile := inferInstanceAs (Decidable (_ ∨ _))

/-- The one file that is read. -/
def file? : Option (String × Entry) :=
  if s.NeedsFile then firstFile s.files s.candidates else none

def fromFile : Settings :=
  (s.file?.bind fun f => (Settings.ofEntry f.2).toOption).getD .empty

def url : String :=
  (first [s.given.url, s.env "BLACKLAKE_URL", s.fromFile.url]).getD "http://localhost:8080"

def key? : Option String :=
  first [s.given.key, s.env "BLACKLAKE_API_KEY", s.fromFile.key]

def verify : Bool :=
  (first [s.given.verify, said readBool (s.env "BLACKLAKE_VERIFY"), s.fromFile.verify]).getD true

def timeout : Duration :=
  (first [s.given.timeout, said readTimeout (s.env "BLACKLAKE_TIMEOUT"),
    s.fromFile.timeout]).getD (.ofSeconds 30)

/-- The slashes and the blank key go after the choice. -/
def config : ClientConfig where
  baseUrl := .ofList (s.url.toList.rdropWhile (· == '/'))
  apiKey := s.key?.filter fun k => !Text.isBlankText k
  timeout := s.timeout
  verifyTls := s.verify

def verifyFault? : Option SettingFault :=
  faultIn readBool (asked s.given.verify (s.env "BLACKLAKE_VERIFY"))

def timeoutFault? : Option SettingFault :=
  faultIn readTimeout (asked s.given.timeout (s.env "BLACKLAKE_TIMEOUT"))

def fileFault? : Option ConfigError :=
  s.file?.bind fun f =>
    match Settings.ofEntry f.2 with
    | .error fault => some (.unreadable f.1 fault)
    | .ok _ => none

def IsHttp (url : String) : Prop :=
  "http://".toList <+: url.toList ∨ "https://".toList <+: url.toList

instance (url : String) : Decidable (IsHttp url) := inferInstanceAs (Decidable (_ ∨ _))

def urlFault? : Option ConfigError :=
  if IsHttp s.url then none else some (.notHttp s.url)

/-- The first thing that is wrong, in the order in which things are looked at. -/
def fault? : Option ConfigError :=
  first [s.verifyFault?.map .setting, s.timeoutFault?.map .setting, s.fileFault?, s.urlFault?]

def result : Except ConfigError ClientConfig :=
  match s.fault? with
  | some fault => .error fault
  | none => .ok s.config

/-- The two do not differ where anybody looks. -/
structure AgreesWith (t : Sources) : Prop where
  given : t.given = s.given
  url : s.given.url = none → t.env "BLACKLAKE_URL" = s.env "BLACKLAKE_URL"
  key : s.given.key = none → t.env "BLACKLAKE_API_KEY" = s.env "BLACKLAKE_API_KEY"
  verify : s.given.verify = none → t.env "BLACKLAKE_VERIFY" = s.env "BLACKLAKE_VERIFY"
  timeout : s.given.timeout = none → t.env "BLACKLAKE_TIMEOUT" = s.env "BLACKLAKE_TIMEOUT"
  file : s.NeedsFile → firstFile t.files t.candidates = firstFile s.files s.candidates

/-! ## One source after the other -/

@[simp] theorem first_some (a : α) (values : List (Option α)) : first (some a :: values) = some a :=
  rfl
@[simp] theorem first_none (values : List (Option α)) : first (none :: values) = first values := rfl
@[simp] theorem first_singleton (value : Option α) : first [value] = value := by cases value <;> rfl

theorem orRead_eq (given : Option α) (text : Option String)
    (read : List Char → Except SettingFault α) :
    Settings.orRead given text read =
      match faultIn read (asked given text) with
      | some fault => .error fault
      | none => .ok (first [given, said read text]) := by
  cases given with
  | some a => rfl
  | none =>
    cases text with
    | none => rfl
    | some t =>
      simp only [Settings.orRead, asked, faultIn, said, Option.bind_some]
      cases read t.toList <;> rfl

theorem first_eq_none_iff {given : Option α} {text : Option String}
    {read : List Char → Except SettingFault α} (h : faultIn read (asked given text) = none) :
    first [given, said read text] = none ↔ IsOpen given text := by
  -- Without a fault, the caller and the environment have no value only where both are silent.
  cases given with
  | some a => simp [IsOpen]
  | none =>
    cases text with
    | none => simp [said, IsOpen]
    | some t =>
      simp only [asked, faultIn, said, Option.bind_some] at h ⊢
      cases hr : read t.toList with
      | error fault => simp [hr] at h
      | ok a => simp [Except.toOption, IsOpen]

theorem ofFirst_eq (files : String → Option Entry) (candidates : List String) :
    Settings.ofFirst files candidates =
      match firstFile files candidates with
      | some (path, entry) => (Settings.ofEntry entry).mapError (.unreadable path)
      | none => .ok .empty := by
  induction candidates with
  | nil => rfl
  | cons path paths ih =>
    rw [Settings.ofFirst, firstFile, List.findSome?_cons]
    cases files path with
    | some entry => rfl
    | none => exact ih

/-- What the caller and the environment say, if the environment makes sense. -/
def early : Settings :=
  ⟨first [s.given.url, s.env "BLACKLAKE_URL"], first [s.given.key, s.env "BLACKLAKE_API_KEY"],
    first [s.given.verify, said readBool (s.env "BLACKLAKE_VERIFY")],
    first [s.given.timeout, said readTimeout (s.env "BLACKLAKE_TIMEOUT")]⟩

theorem or_eq_first (a b : Option α) : a.or b = first [a, b] := by
  cases a <;> cases b <;> rfl

theorem withEnvironment_eq :
    s.given.withEnvironment s.env =
      match first [s.verifyFault?, s.timeoutFault?] with
      | some fault => .error fault
      | none => .ok s.early := by
  unfold Settings.withEnvironment verifyFault? timeoutFault?
  rw [orRead_eq, orRead_eq, or_eq_first, or_eq_first]
  cases faultIn readBool (asked s.given.verify (s.env "BLACKLAKE_VERIFY")) with
  | some fault => rfl
  | none => cases faultIn readTimeout (asked s.given.timeout (s.env "BLACKLAKE_TIMEOUT")) <;> rfl

theorem isComplete_early (hv : s.verifyFault? = none) (ht : s.timeoutFault? = none) :
    s.early.isComplete = !decide s.NeedsFile := by
  have hverify := first_eq_none_iff hv
  have htimeout := first_eq_none_iff ht
  have hurl : first [s.given.url, s.env "BLACKLAKE_URL"] = none ↔
      IsOpen s.given.url (s.env "BLACKLAKE_URL") := by simp [first, IsOpen]
  have hkey : first [s.given.key, s.env "BLACKLAKE_API_KEY"] = none ↔
      IsOpen s.given.key (s.env "BLACKLAKE_API_KEY") := by simp [first, IsOpen]
  rw [Bool.eq_iff_iff]
  simp only [Settings.isComplete, early, NeedsFile, ← hurl, ← hkey, ← hverify, ← htimeout,
    Bool.and_eq_true, Bool.not_eq_true', decide_eq_false_iff_not, not_or, Option.isSome_iff_ne_none,
    and_assoc, ne_eq]

theorem isHttp_iff (url : String) : Settings.isHttp url = true ↔ IsHttp url := by
  simp only [Settings.isHttp, IsHttp, Bool.or_eq_true, List.isPrefixOf_iff_prefix]

theorem first_or (a b c : Option α) : (first [a, b]).or c = first [a, b, c] := by
  cases a <;> cases b <;> cases c <;> rfl

theorem toConfig_early_or_fromFile :
    (s.early.or s.fromFile).toConfig =
      match s.urlFault? with
      | some fault => .error fault
      | none => .ok s.config := by
  have hurl : (s.early.or s.fromFile).url.getD ClientConfig.defaultBaseUrl = s.url := by
    rw [Settings.or, early, first_or]
    rfl
  unfold Settings.toConfig urlFault?
  simp only [hurl, isHttp_iff]
  split
  · simp only [Settings.or, early, first_or]
    rfl
  · rfl

theorem or_empty (t : Settings) : t.or .empty = t := by
  simp [Settings.or, Settings.empty]

theorem verifyFault?_eq_some_iff {fault : SettingFault} :
    s.verifyFault? = some fault ↔
      s.given.verify = none ∧ ∃ t, s.env "BLACKLAKE_VERIFY" = some t ∧
        ¬ IsYes (wordOf t.toList) ∧ ¬ IsNo (wordOf t.toList) ∧
        fault = .notBoolean (wordOf t.toList) := by
  -- The variable is looked at only where nothing is given, and it is wrong where it is no word for
  -- a truth value.
  unfold verifyFault?
  cases hgiven : s.given.verify with
  | some b => simp [asked, faultIn]
  | none =>
    cases henv : s.env "BLACKLAKE_VERIFY" with
    | none => simp [asked, faultIn]
    | some t =>
      simp only [asked, faultIn, Option.bind_some, Option.some.injEq, exists_eq_left', true_and,
        ← readBool_eq_error_iff]
      cases readBool t.toList <;> simp

theorem resolve_eq_result : s.resolve = s.result := by
  unfold resolve ClientConfig.resolve result fault?
  rw [withEnvironment_eq]
  cases hv : s.verifyFault? with
  | some fault => rfl
  | none =>
    cases ht : s.timeoutFault? with
    | some fault => rfl
    | none =>
      have hcomplete := s.isComplete_early hv ht
      have hend := s.toConfig_early_or_fromFile
      change (if s.early.isComplete then _ else _) = _
      simp only [Option.map_none, first_none]
      by_cases hn : s.NeedsFile
      · -- The file is looked at.
        have hfile : s.file? = firstFile s.files s.candidates := if_pos hn
        rw [hcomplete, decide_eq_true hn, ofFirst_eq, ← hfile]
        unfold fileFault?
        unfold fromFile at hend
        cases hf : s.file? with
        | none =>
          simp only [hf, Option.bind_none, Option.getD_none] at hend
          simpa [bind, Except.bind] using hend
        | some f =>
          cases hentry : Settings.ofEntry f.2 with
          | error fault => simp [hentry, Except.mapError, bind, Except.bind]
          | ok found =>
            simp only [hf, hentry, Option.bind_some, Except.toOption, Option.getD_some] at hend
            simpa [hentry, Except.mapError, bind, Except.bind] using hend
      · -- There is nothing left for it to say.
        have hfile : s.file? = none := if_neg hn
        have hempty : s.fromFile = .empty := by rw [fromFile, hfile]; rfl
        rw [hempty, or_empty] at hend
        rw [hcomplete, decide_eq_false hn, fileFault?, hfile]
        simpa using hend

theorem config_of_resolve {c : ClientConfig} (h : s.resolve = .ok c) :
    s.fault? = none ∧ c = s.config := by
  rw [s.resolve_eq_result, result] at h
  cases hf : s.fault? with
  | some fault => simp [hf] at h
  | none =>
    simp only [hf, Except.ok.injEq] at h
    exact ⟨rfl, h.symm⟩

/-! ## Who is not asked does not matter -/

theorem first_congr {given a b : Option α} (h : given = none → a = b) (rest : List (Option α)) :
    first (given :: a :: rest) = first (given :: b :: rest) := by
  cases given with
  | some v => rfl
  | none => rw [h rfl]

theorem asked_congr {given : Option α} {a b : Option String} (h : given = none → a = b) :
    asked given a = asked given b := by
  cases given with
  | some v => rfl
  | none => exact h rfl

theorem isOpen_congr {given : Option α} {a b : Option String} (h : given = none → a = b) :
    IsOpen given a ↔ IsOpen given b := by
  cases given with
  | some v => simp [IsOpen]
  | none => rw [h rfl]

variable {s} {t : Sources}

theorem needsFile_congr (h : s.AgreesWith t) : t.NeedsFile ↔ s.NeedsFile := by
  unfold NeedsFile
  rw [h.given, isOpen_congr h.url, isOpen_congr h.key, isOpen_congr h.verify,
    isOpen_congr h.timeout]

theorem file?_congr (h : s.AgreesWith t) : t.file? = s.file? := by
  unfold file?
  simp only [needsFile_congr h]
  split
  · next hn => exact h.file hn
  · rfl

theorem result_congr (h : s.AgreesWith t) : t.result = s.result := by
  have hfile := file?_congr h
  have hfrom : t.fromFile = s.fromFile := by rw [fromFile, fromFile, hfile]
  have hurl : t.url = s.url := by rw [url, url, h.given, hfrom, first_congr h.url]
  have hkey : t.key? = s.key? := by rw [key?, key?, h.given, hfrom, first_congr h.key]
  have hverify : t.verify = s.verify := by
    rw [verify, verify, h.given, hfrom, first_congr fun hn => by rw [h.verify hn]]
  have htimeout : t.timeout = s.timeout := by
    rw [timeout, timeout, h.given, hfrom, first_congr fun hn => by rw [h.timeout hn]]
  have hconfig : t.config = s.config := by
    rw [config, config, hurl, hkey, hverify, htimeout]
  have hfault : t.fault? = s.fault? := by
    unfold fault? verifyFault? timeoutFault? fileFault? urlFault?
    rw [h.given, hfile, hurl, asked_congr h.verify, asked_congr h.timeout]
  rw [result, result, hfault, hconfig]

variable (s)

/-- A configuration is what the rules make of its sources, down to the fault that is reported.
Whatever they do not ask for does not change it: the environment where a setting is given, and every
candidate but the first file there is. A file named by the environment is the only candidate. -/
theorem resolves_by_rules :
    s.resolve = s.result ∧
    (∀ t, s.AgreesWith t → t.resolve = s.resolve) ∧
    ∀ (url key : Option String) (verify : Option Bool) (place : Place) (path : String),
      s.env "BLACKLAKE_RC" = some path →
        ClientConfig.load url key verify s.env place =
          resolve ⟨⟨url, key, verify, none⟩, s.env, place.tree.find? place.cwd, [path]⟩ := by
  refine ⟨s.resolve_eq_result, ?_, ?_⟩
  · intro t h
    rw [t.resolve_eq_result, s.resolve_eq_result, result_congr h]
  · intro url key verify place path h
    rw [ClientConfig.load, Place.candidates, h]
    rfl

/-- Two settings are given, the key is in the environment and the timeout in the second file. -/
def mixed : Sources where
  given := ⟨some "https://portal.example//", none, some false, none⟩
  env
    | "BLACKLAKE_API_KEY" => some "k-1"
    | "BLACKLAKE_VERIFY" => some "perhaps"
    | "BLACKLAKE_RC" => some "/etc/lake"
    | _ => none
  files
    | "/here/.blacklakerc" => some (.file (Utf8.encode "key: other\ntimeout: 2.5".toList))
    | "/home/.blacklakerc" => some .directory
    | _ => none
  candidates := ["/gone/.blacklakerc", "/here/.blacklakerc", "/home/.blacklakerc"]

/-- Variables for what is given are different, and so is what follows the first file. -/
def mixedElsewhere : Sources :=
  { mixed with
    env := fun
      | "BLACKLAKE_API_KEY" => some "k-1"
      | "BLACKLAKE_URL" => some "nowhere"
      | _ => none
    candidates := ["/here/.blacklakerc", "/gone/.blacklakerc"] }

theorem mixed_agreesWith_elsewhere : mixed.AgreesWith mixedElsewhere where
  given := rfl
  url := by simp [mixed]
  key _ := rfl
  verify := by simp [mixed]
  timeout _ := rfl
  file _ := rfl

theorem mixed_resolves_elsewhere :
    mixedElsewhere.resolve = mixed.resolve ∧
    mixed.resolve.toOption =
      some ⟨"https://portal.example", some "k-1", ⟨2500000000, by decide⟩, false⟩ ∧
    ∀ place, ClientConfig.load none none none mixed.env place =
      resolve ⟨.empty, mixed.env, place.tree.find? place.cwd, ["/etc/lake"]⟩ := by
  -- What is wrong in the environment is not looked at, and the key of the file comes too late.
  obtain ⟨hresult, hagree, hload⟩ := resolves_by_rules mixed
  refine ⟨hagree mixedElsewhere mixed_agreesWith_elsewhere, ?_, ?_⟩
  · rw [hresult]
    decide +kernel
  · intro place
    exact hload none none none place "/etc/lake" rfl

end Sources

end Portal

import Portal.Client.Basic
import Portal.Proofs.Config.KeyLine
import Portal.Proofs.Config.Resolution

/-!
# Keys do not show

Two keys that come from the same place lead to the same error, or to configurations that look the
same. All that is seen of a key is whether it is blank.
-/

namespace Portal

/-- What is seen of a key. -/
def maskedKey (key : String) : String :=
  if Text.isBlankText key then "" else "*"

theorem isBlankText_maskedKey (key : String) :
    Text.isBlankText (maskedKey key) = Text.isBlankText key := by
  unfold maskedKey
  split
  · next h => rw [h]; rfl
  · next h => rw [Bool.not_eq_true] at h; rw [h]; rfl

theorem maskedKey_maskedKey (key : String) : maskedKey (maskedKey key) = maskedKey key := by
  rw [maskedKey, isBlankText_maskedKey, ← maskedKey]

theorem toList_ne_nil_of_not_blank {key : String} (h : Text.isBlankText key = false) :
    key.toList ≠ [] := by
  intro hnil
  simp [Text.isBlankText, hnil] at h

def Settings.masked (s : Settings) : Settings :=
  { s with key := s.key.map maskedKey }

@[simp]
theorem Settings.masked_masked (s : Settings) : s.masked.masked = s.masked := by
  simp [masked, maskedKey_maskedKey, Function.comp_def]

theorem Settings.masked_eq_iff {s t : Settings} :
    s.masked = t.masked ↔ s.url = t.url ∧ s.key.map maskedKey = t.key.map maskedKey ∧
      s.verify = t.verify ∧ s.timeout = t.timeout := by
  simp [masked]

theorem Settings.masked_some_key {k₁ k₂ : String} (h : maskedKey k₁ = maskedKey k₂)
    (s : Settings) :
    { s with key := some k₁ }.masked = { s with key := some k₂ }.masked := by
  simp [masked, h]

/-! ## Reading a file -/

namespace RcFile

def State.masked (q : State) : State :=
  { q with settings := q.settings.masked }

@[simp]
theorem State.masked_mk (s : Settings) (waiting : Option Name) :
    State.masked ⟨s, waiting⟩ = ⟨s.masked, waiting⟩ := rfl

theorem assign_masked (s : Settings) (name : Name) (value : List Char) :
    ((assign s.masked name value).map fun s => State.mk s none).map State.masked =
      ((assign s name value).map fun s => State.mk s none).map State.masked := by
  have hkey : (s.key.map maskedKey).map maskedKey = s.key.map maskedKey :=
    congrArg Settings.key s.masked_masked
  cases name with
  | url => simp [assign, Except.map, Settings.masked, hkey]
  | key => rfl
  | verify =>
    rw [assign, assign]
    cases readBool value with
    | error fault => rfl
    | ok b => simp [bind, Except.bind, pure, Except.pure, Except.map, Settings.masked, hkey]
  | timeout =>
    rw [assign, assign]
    cases readTimeout value with
    | error fault => rfl
    | ok d => simp [bind, Except.bind, pure, Except.pure, Except.map, Settings.masked, hkey]

theorem nameLine_masked (s : Settings) (line : List Char) :
    (nameLine s.masked line).map State.masked = (nameLine s line).map State.masked := by
  unfold nameLine
  cases Text.splitOnce ':' line with
  | none => simp [Except.map]
  | some parts =>
    obtain ⟨name, value⟩ := parts
    cases hname : Name.ofChars? (Text.trim name) with
    | none => simp [hname, Except.map]
    | some name =>
      simp only [hname]
      split
      · simp [Except.map]
      · exact assign_masked s name _

theorem step_masked (q : State) (line : List Char) :
    (step q.masked line).map State.masked = (step q line).map State.masked := by
  obtain ⟨s, waiting⟩ := q
  unfold step trimmedLine
  split
  · simp [Except.map]
  · cases waiting with
    | none => exact nameLine_masked s _
    | some name =>
      cases name? (Text.trim line) with
      | none => exact assign_masked s name _
      | some _ => exact nameLine_masked s _

/-- A run that starts with another key ends with another key, or in the same fault. -/
theorem run_alike {q q' : State} (h : q.masked = q'.masked) (lines : List (List Char)) :
    (run q lines).map State.masked = (run q' lines).map State.masked := by
  induction lines generalizing q q' with
  | nil => exact congrArg Except.ok h
  | cons line lines ih =>
    have hstep : (step q line).map State.masked = (step q' line).map State.masked := by
      rw [← step_masked q, h, step_masked]
    rw [run_cons, run_cons]
    cases hq : step q line <;> cases hq' : step q' line <;> rw [hq, hq'] at hstep
    · exact congrArg Except.error (Except.error.inj hstep)
    · cases hstep
    · cases hstep
    · exact ih (Except.ok.inj hstep)

end RcFile

theorem KeyLine.runAround_alike {k₁ k₂ : String} (h : maskedKey k₁ = maskedKey k₂)
    (before after : List (List Char)) :
    (runAround k₁ before after).map RcFile.State.masked =
      (runAround k₂ before after).map RcFile.State.masked := by
  unfold runAround
  cases RcFile.run .start (before.flatMap (Text.pieces '\n')) with
  | error fault => rfl
  | ok q =>
    apply RcFile.run_alike
    rw [RcFile.State.masked_mk, RcFile.State.masked_mk, Settings.masked_some_key h]

theorem KeyLine.read_alike (l : KeyLine) {k₁ k₂ : String} (h : maskedKey k₁ = maskedKey k₂) :
    (l.read k₁).map Settings.masked = (l.read k₂).map Settings.masked := by
  have hsettings (r : Except SettingFault RcFile.State) :
      ((r.map RcFile.State.settings).mapError ReadFault.setting).map Settings.masked =
        ((r.map RcFile.State.masked).map RcFile.State.settings).mapError ReadFault.setting := by
    cases r <;> rfl
  unfold read
  cases l.before.mapM Utf8.decode? with
  | none => rfl
  | some before =>
    cases l.after.mapM Utf8.decode? with
    | none => rfl
    | some after =>
      dsimp only
      rw [hsettings, runAround_alike h, hsettings]

/-! ## Configurations -/

def ClientConfig.masked (c : ClientConfig) : ClientConfig :=
  { c with apiKey := c.apiKey.map maskedKey }

theorem ClientConfig.debugText_masked (c : ClientConfig) : c.masked.debugText = c.debugText := by
  obtain ⟨baseUrl, apiKey, timeout, verifyTls⟩ := c
  cases apiKey <;> rfl

theorem ClientConfig.eq_of_masked {c c' : ClientConfig} (h : c.masked = c'.masked) :
    c' = { c with apiKey := c'.apiKey } := by
  obtain ⟨baseUrl, apiKey, timeout, verifyTls⟩ := c
  obtain ⟨baseUrl', apiKey', timeout', verifyTls'⟩ := c'
  simp only [masked, mk.injEq] at h
  simp [h]

theorem Client.eq_badApiKey_of_ofConfig {config : ClientConfig} {e : ConfigError}
    (h : ofConfig config = .error e) : e = .badApiKey := by
  unfold ofConfig at h
  cases hheaders : defaultHeadersOf config with
  | ok headers =>
    rw [hheaders] at h
    cases h
  | error e' =>
    rw [hheaders] at h
    cases h
    unfold defaultHeadersOf at hheaders
    split at hheaders
    · cases hheaders
    · dsimp only at hheaders
      split at hheaders
      · cases hheaders
      · exact (Except.error.inj hheaders).symm

theorem BlockingClient.error_of_ofConfig {started : Except String ρ} {config : ClientConfig}
    {e : ConfigError} (h : ofConfig started config = .error e) :
    (∃ reason, started = .error reason ∧ e = .noRuntime reason) ∨
      Client.ofConfig config = .error e := by
  unfold ofConfig at h
  cases started with
  | error reason =>
    cases h
    exact Or.inl ⟨reason, rfl, rfl⟩
  | ok runtime =>
    cases hclient : Client.ofConfig config with
    | error e' =>
      rw [hclient] at h
      cases h
      exact Or.inr rfl
    | ok inner =>
      rw [hclient] at h
      cases h

theorem map_filter_masked (key : Option String) :
    (key.filter fun k => !Text.isBlankText k).map maskedKey =
      (key.map maskedKey).filter fun k => !Text.isBlankText k := by
  cases key with
  | none => rfl
  | some k =>
    simp only [Option.filter, Option.map_some, isBlankText_maskedKey]
    split <;> rfl

/-! ## Sources -/

namespace Sources

/-- What a file tells without its key. -/
def told (f : String × Entry) : String × Except ReadFault Settings :=
  (f.1, (Settings.ofEntry f.2).map Settings.masked)

/-- The sources of `s` and of `t` differ in the text of keys only. -/
structure Alike (s t : Sources) : Prop where
  given : s.given.masked = t.given.masked
  key : (s.env "BLACKLAKE_API_KEY").map maskedKey = (t.env "BLACKLAKE_API_KEY").map maskedKey
  env : ∀ name, name ≠ "BLACKLAKE_API_KEY" → s.env name = t.env name
  file : (firstFile s.files s.candidates).map told = (firstFile t.files t.candidates).map told

variable {s t : Sources}

theorem map_first (f : α → β) (values : List (Option α)) :
    (first values).map f = first (values.map (Option.map f)) := by
  induction values with
  | nil => rfl
  | cons value values ih =>
    cases value with
    | none => exact ih
    | some a => rfl

theorem isOpen_map (f : String → String) (given text : Option String) :
    IsOpen (given.map f) (text.map f) ↔ IsOpen given text := by
  simp [IsOpen]

theorem Alike.needsFile (h : s.Alike t) : s.NeedsFile ↔ t.NeedsFile := by
  obtain ⟨hurl, hkey, hverify, htimeout⟩ := Settings.masked_eq_iff.mp h.given
  unfold NeedsFile
  rw [← isOpen_map maskedKey s.given.key, hkey, h.key, isOpen_map, hurl, hverify, htimeout,
    h.env "BLACKLAKE_URL" (by decide), h.env "BLACKLAKE_VERIFY" (by decide),
    h.env "BLACKLAKE_TIMEOUT" (by decide)]

theorem Alike.file?_told (h : s.Alike t) : s.file?.map told = t.file?.map told := by
  unfold file?
  simp only [h.needsFile]
  split
  · exact h.file
  · rfl

def faultOf : String × Except ReadFault Settings → Option ConfigError
  | (path, .error fault) => some (.unreadable path fault)
  | (_, .ok _) => none

theorem fileFault?_eq_told (s : Sources) : s.fileFault? = (s.file?.map told).bind faultOf := by
  unfold fileFault?
  cases s.file? with
  | none => rfl
  | some f =>
    obtain ⟨path, entry⟩ := f
    simp only [Option.bind_some, Option.map_some, told]
    cases Settings.ofEntry entry <;> rfl

theorem fromFile_masked (s : Sources) :
    s.fromFile.masked = ((s.file?.map told).bind fun f => f.2.toOption).getD .empty := by
  unfold fromFile
  cases s.file? with
  | none => rfl
  | some f =>
    obtain ⟨path, entry⟩ := f
    simp only [Option.bind_some, Option.map_some, told]
    cases Settings.ofEntry entry <;> rfl

theorem Alike.fromFile (h : s.Alike t) : s.fromFile.masked = t.fromFile.masked := by
  rw [fromFile_masked, h.file?_told, fromFile_masked]

theorem Alike.url (h : s.Alike t) : s.url = t.url := by
  have hgiven := (Settings.masked_eq_iff.mp h.given).1
  have hfile := (Settings.masked_eq_iff.mp h.fromFile).1
  rw [Sources.url, Sources.url, hgiven, hfile, h.env "BLACKLAKE_URL" (by decide)]

theorem Alike.config (h : s.Alike t) : s.config.masked = t.config.masked := by
  obtain ⟨-, hkey, hverify, htimeout⟩ := Settings.masked_eq_iff.mp h.given
  obtain ⟨-, hkey', hverify', htimeout'⟩ := Settings.masked_eq_iff.mp h.fromFile
  have hkeys : s.key?.map maskedKey = t.key?.map maskedKey := by
    rw [key?, key?, map_first, map_first]
    simp only [List.map_cons, List.map_nil, hkey, h.key, hkey']
  have hverify : s.verify = t.verify := by
    rw [verify, verify, hverify, hverify', h.env "BLACKLAKE_VERIFY" (by decide)]
  have htimeout : s.timeout = t.timeout := by
    rw [timeout, timeout, htimeout, htimeout', h.env "BLACKLAKE_TIMEOUT" (by decide)]
  simp only [ClientConfig.masked, Sources.config, h.url, hverify, htimeout, map_filter_masked,
    hkeys]

theorem Alike.fault? (h : s.Alike t) : s.fault? = t.fault? := by
  obtain ⟨-, -, hverify, htimeout⟩ := Settings.masked_eq_iff.mp h.given
  unfold Sources.fault? verifyFault? timeoutFault? urlFault?
  rw [fileFault?_eq_told, fileFault?_eq_told, h.file?_told, h.url, hverify, htimeout,
    h.env "BLACKLAKE_VERIFY" (by decide), h.env "BLACKLAKE_TIMEOUT" (by decide)]

theorem Alike.resolve (h : s.Alike t) :
    s.resolve.map ClientConfig.masked = t.resolve.map ClientConfig.masked := by
  rw [resolve_eq_result, resolve_eq_result, result, result, h.fault?]
  cases t.fault? with
  | some fault => rfl
  | none => exact congrArg Except.ok h.config

/-! ## A key and its place -/

/-- Where a key is supplied. -/
inductive KeyPlace
  | argument
  | environment
  | line (path : String) (line : KeyLine)

/-- The sources with a key in its place, instead of what is there. -/
def withKey (s : Sources) (place : KeyPlace) (key : String) : Sources :=
  match place with
  | .argument => { s with given := { s.given with key := some key } }
  | .environment =>
    { s with env := fun name => if name = "BLACKLAKE_API_KEY" then some key else s.env name }
  | .line path l =>
    { s with files := fun p => if p = path then some (.file (l.bytes key)) else s.files p }

theorem firstFile_told {files files' : String → Option Entry}
    (h : ∀ path, (files path).map (fun e => (Settings.ofEntry e).map Settings.masked) =
      (files' path).map fun e => (Settings.ofEntry e).map Settings.masked)
    (candidates : List String) :
    (firstFile files candidates).map told = (firstFile files' candidates).map told := by
  induction candidates with
  | nil => rfl
  | cons path paths ih =>
    have hpath := h path
    unfold firstFile at ih ⊢
    rw [List.findSome?_cons, List.findSome?_cons]
    cases hf : files path <;> cases hf' : files' path <;> rw [hf, hf'] at hpath
    · exact ih
    · cases hpath
    · cases hpath
    · simp only [Option.map_some, Option.some.injEq] at hpath
      simp only [Option.map_some, told, hpath]

theorem withKey_alike (s : Sources) (place : KeyPlace) {k₁ k₂ : String}
    (hmask : maskedKey k₁ = maskedKey k₂) (h₁ : k₁.toList ≠ [] ∧ '\n' ∉ k₁.toList)
    (h₂ : k₂.toList ≠ [] ∧ '\n' ∉ k₂.toList) :
    (s.withKey place k₁).Alike (s.withKey place k₂) := by
  cases place with
  | argument => exact ⟨Settings.masked_some_key hmask _, rfl, fun _ _ => rfl, rfl⟩
  | environment =>
    refine ⟨rfl, ?_, ?_, rfl⟩
    · simpa [withKey] using hmask
    · intro name hname
      simp [withKey, hname]
  | line path l =>
    refine ⟨rfl, rfl, fun _ _ => rfl, firstFile_told ?_ _⟩
    intro p
    by_cases hp : p = path
    · simp only [withKey, hp, if_true, Option.map_some, l.ofEntry_bytes h₁.1 h₁.2,
        l.ofEntry_bytes h₂.1 h₂.2, l.read_alike hmask]
    · simp only [withKey, hp, if_false]

/-- Of two keys that are not blank and have no line feed, in the same place among the same sources,
neither shows: loading ends in the same error, or in configurations that differ in the key only and
have the same text in logs. A client that cannot be built says the same of every key, and so does a
blocking one whose runtime has started. -/
theorem keys_do_not_show (s : Sources) (place : KeyPlace) {k₁ k₂ : String}
    (hblank₁ : Text.isBlankText k₁ = false) (hblank₂ : Text.isBlankText k₂ = false)
    (hline₁ : '\n' ∉ k₁.toList) (hline₂ : '\n' ∉ k₂.toList) :
    ((∃ e, (s.withKey place k₁).resolve = .error e ∧ (s.withKey place k₂).resolve = .error e) ∨
      ∃ c₁ c₂, (s.withKey place k₁).resolve = .ok c₁ ∧ (s.withKey place k₂).resolve = .ok c₂ ∧
        c₂ = { c₁ with apiKey := c₂.apiKey } ∧ c₁.debugText = c₂.debugText) ∧
    (∀ config e, Client.ofConfig config = .error e →
      e.message = "API key contains characters that are not valid in an HTTP header: " ++
        "failed to parse header value") ∧
    ∀ {ρ : Type} (started : Except String ρ) config e,
      BlockingClient.ofConfig started config = .error e →
      (∃ reason, started = .error reason ∧
        e.message = "failed to start runtime for blocking client: " ++ reason) ∨
      e.message = "API key contains characters that are not valid in an HTTP header: " ++
        "failed to parse header value" := by
  have hmask : maskedKey k₁ = maskedKey k₂ := by
    rw [maskedKey, maskedKey, hblank₁, hblank₂]
  have halike := (s.withKey_alike place hmask ⟨toList_ne_nil_of_not_blank hblank₁, hline₁⟩
    ⟨toList_ne_nil_of_not_blank hblank₂, hline₂⟩).resolve
  have hclient : ∀ config e, Client.ofConfig config = .error e →
      e.message = "API key contains characters that are not valid in an HTTP header: " ++
        "failed to parse header value" := by
    intro config e h
    rw [Client.eq_badApiKey_of_ofConfig h]
    rfl
  refine ⟨?_, hclient, ?_⟩
  · revert halike
    cases (s.withKey place k₁).resolve <;> cases (s.withKey place k₂).resolve <;> intro halike
    · exact Or.inl ⟨_, rfl, congrArg Except.error (Except.error.inj halike).symm⟩
    · cases halike
    · cases halike
    · have hmasked := Except.ok.inj halike
      refine Or.inr ⟨_, _, rfl, rfl, ClientConfig.eq_of_masked hmasked, ?_⟩
      rw [← ClientConfig.debugText_masked, hmasked, ClientConfig.debugText_masked]
  · intro ρ started config e h
    rcases BlockingClient.error_of_ofConfig h with ⟨reason, hstart, rfl⟩ | hinner
    · exact Or.inl ⟨reason, hstart, rfl⟩
    · exact Or.inr (hclient config e hinner)

/-- The name `url` waits when the key's name comes, and the value is two lines further down. -/
def waitingLine : KeyLine where
  before := [Utf8.encode "url:".toList, Utf8.encode "# the key".toList]
  indent := "\t".toList
  gap := " \n\n ".toList
  quote := '"'
  tail := "\r".toList
  after := [Utf8.encode "timeout: 2.5".toList]
  indent_blank := by simp [Text.isBlank]
  gap_blank := by simp [Text.isBlank]
  quote_isQuote := Or.inl rfl
  tail_blank := by simp [Text.isBlank]

/-- A file without anything else, and nothing in the environment. -/
def keyFile (key : String) : Sources :=
  withKey ⟨.empty, fun _ => none, fun _ => none, ["/gone", "/here"]⟩ (.line "/here" waitingLine) key

theorem keys_like_other_lines_do_not_show :
    (∃ c₁ c₂, (keyFile "url: x").resolve = .ok c₁ ∧ (keyFile "#\"").resolve = .ok c₂ ∧
      c₁.apiKey = some "url: x" ∧ c₂.apiKey = some "#\"" ∧ c₁.debugText = c₂.debugText) ∧
    (∃ e, Client.ofConfig (ClientConfig.default.withApiKey "k\x07") = .error e ∧
      e.message = "API key contains characters that are not valid in an HTTP header: " ++
        "failed to parse header value") ∧
    ∃ e, BlockingClient.ofConfig (.ok ()) (ClientConfig.default.withApiKey "k\x07") = .error e ∧
      e.message = "API key contains characters that are not valid in an HTTP header: " ++
        "failed to parse header value" := by
  -- One key reads like a setting and the other like a comment.
  have hread₁ : (keyFile "url: x").resolve.toOption.bind (·.apiKey) = some "url: x" := by
    decide +kernel
  have hread₂ : (keyFile "#\"").resolve.toOption.bind (·.apiKey) = some "#\"" := by
    decide +kernel
  have hblank₁ : Text.isBlankText "url: x" = false := by decide
  have hblank₂ : Text.isBlankText "#\"" = false := by decide
  obtain ⟨hload, hclient, hblocking⟩ := keys_do_not_show
    ⟨.empty, fun _ => none, fun _ => none, ["/gone", "/here"]⟩ (.line "/here" waitingLine)
    hblank₁ hblank₂ (by decide) (by decide)
  have hcontrol : Client.ofConfig (ClientConfig.default.withApiKey "k\x07") = .error .badApiKey :=
    rfl
  have hinner : BlockingClient.ofConfig (.ok ()) (ClientConfig.default.withApiKey "k\x07") =
      .error .badApiKey := rfl
  refine ⟨?_, ⟨_, hcontrol, hclient _ _ hcontrol⟩, _, hinner,
    (hblocking _ _ _ hinner).resolve_left nofun⟩
  rcases hload with ⟨e, he, -⟩ | ⟨c₁, c₂, h₁, h₂, -, hdebug⟩
  · change (keyFile "url: x").resolve = _ at he
    rw [he] at hread₁
    cases hread₁
  · change (keyFile "url: x").resolve = _ at h₁
    change (keyFile "#\"").resolve = _ at h₂
    rw [h₁] at hread₁
    rw [h₂] at hread₂
    exact ⟨c₁, c₂, h₁, h₂, hread₁, hread₂, hdebug⟩

end Sources

end Portal

import Portal.Proofs.Http.HeaderMaps
import Portal.Proofs.Http.Script
import Portal.Proofs.Text.Trim
import Portal.Proofs.Url.Reach

/-!
# Headers that are sent

A call has the headers it was given, and for the three names that a client sets itself those of the
client where it was not given any. The key goes out once, without blanks around it and without
controls. All of this is so on the wire too, as long as the base names no user: of a user the
transport makes a header of its own.
-/

namespace Portal

namespace ApiRequest

/-- What may be added to a call. -/
inductive Step
  | param (key value : String)
  | optional (key : String) (value : Option String)
  | body (v : Json)
  | header (key value : String)

namespace Step

def apply (r : ApiRequest) : Step → ApiRequest
  | param key value => r.withParam key value
  | optional key value => r.withParam? key value
  | body v => r.withBody v
  | header key value => r.withHeader key value

/-- What the step says of a header. -/
def value? (n : String) : Step → Option String
  | header key value => if Headers.name n = Headers.name key then some value else none
  | _ => none

end Step

def built (method endpoint : String) (steps : List Step) : ApiRequest :=
  steps.foldl Step.apply (ofMethod method endpoint)

/-- The last word on a header. -/
def lastValue (n : String) (steps : List Step) : Option String :=
  steps.reverse.findSome? (Step.value? n)

/-! ## Building a call -/

theorem values_apply (n : String) (r : ApiRequest) (step : Step) :
    (step.apply r).headers.values n = (step.value? n).elim (r.headers.values n) ([·]) := by
  cases step with
  | param key value => rfl
  | optional key value =>
    cases value with
    | none => rfl
    | some value =>
      rw [Step.apply, withParam?]
      split <;> rfl
  | body v => rfl
  | header key value =>
    rw [Step.apply, withHeader, Step.value?, Headers.values_insert]
    split <;> rfl

theorem values_foldl (n : String) (r : ApiRequest) (steps : List Step) :
    (steps.foldl Step.apply r).headers.values n =
      (lastValue n steps).elim (r.headers.values n) ([·]) := by
  induction steps generalizing r with
  | nil => rfl
  | cons step steps ih =>
    rw [List.foldl_cons, ih, values_apply, lastValue, lastValue, List.reverse_cons,
      List.findSome?_append]
    cases steps.reverse.findSome? (Step.value? n) with
    | some value => rfl
    | none => cases hv : step.value? n <;> simp [hv]

theorem values_built (n method endpoint : String) (steps : List Step) :
    (built method endpoint steps).headers.values n = (lastValue n steps).toList := by
  rw [built, values_foldl]
  cases lastValue n steps <;> rfl

end ApiRequest

namespace Client

/-- A control as HTTP counts them, which is one of ASCII, and no tab. -/
def IsForbidden (c : Char) : Prop :=
  Percent.isControl c = true ∧ c ≠ '\t'

instance (c : Char) : Decidable (IsForbidden c) := inferInstanceAs (Decidable (_ ∧ _))

/-- The key as it is sent, if there is any. -/
def bearer (config : ClientConfig) : List String :=
  match config.apiKey with
  | none => []
  | some key =>
    if Text.isBlankText key then [] else ["Bearer " ++ .ofList (Text.trim key.toList)]

/-- What a client sends of its own. -/
def ownHeaders (config : ClientConfig) : List (String × List String) :=
  [("content-type", ["application/json"]), ("user-agent", ["blacklake-sdk-rust/0.1.0"]),
    ("authorization", bearer config)]

/-- Headers as they were given last, and the client's own where none were given. -/
def OwnOrGiven (config : ClientConfig) (steps : List ApiRequest.Step) (hs : Headers) : Prop :=
  ∀ own ∈ ownHeaders config,
    hs.values own.1 = (ApiRequest.lastValue own.1 steps).elim own.2 ([·])

/-! ## The key -/

theorem usedKey?_of_some {config : ClientConfig} {key : String} (h : config.apiKey = some key) :
    usedKey? config =
      if Text.isBlankText key then none else some (.ofList (Text.trim key.toList)) := by
  have hblank : (Text.trim key.toList).isEmpty = Text.isBlankText key := by
    rw [Bool.eq_iff_iff, List.isEmpty_iff, Text.trim_eq_nil_iff]
    rfl
  rw [usedKey?, h]
  change (if (Text.trim key.toList).isEmpty then _ else _) = _
  rw [hblank]

theorem bearer_eq (config : ClientConfig) :
    bearer config = (usedKey? config).elim [] fun key => ["Bearer " ++ key] := by
  cases h : config.apiKey with
  | none => rw [bearer, usedKey?, h]; rfl
  | some key =>
    simp only [bearer, h, usedKey?_of_some h]
    split <;> rfl

theorem isValue_iff (value : String) :
    Headers.isValue value = true ↔ ∀ c ∈ value.toList, ¬ IsForbidden c := by
  rw [Headers.isValue, List.all_eq_true]
  apply forall₂_congr
  intro c _
  simp only [IsForbidden, Percent.isControl, Bool.or_eq_true, beq_iff_eq, Bool.and_eq_true,
    decide_eq_true_eq, bne_iff_ne]
  by_cases hc : c = '\t'
  · simp [hc]
  · simp only [hc, false_or, ne_eq, not_false_eq_true, and_true]
    omega

/-! ## The headers of a client -/

theorem own_names_differ :
    Headers.name "content-type" ≠ Headers.name "user-agent" ∧
      Headers.name "content-type" ≠ Headers.name "authorization" ∧
      Headers.name "user-agent" ≠ Headers.name "authorization" := by
  decide

/-- The headers before the key comes in. -/
def keyless : Headers :=
  (Headers.empty.insert "content-type" "application/json").insert "user-agent" userAgent

theorem values_keyless :
    keyless.values "content-type" = ["application/json"] ∧
      keyless.values "user-agent" = [userAgent] ∧ keyless.values "authorization" = [] := by
  obtain ⟨hcu, hca, hua⟩ := own_names_differ
  unfold keyless
  refine ⟨?_, ?_, ?_⟩
  · rw [Headers.values_insert, if_neg hcu, Headers.values_insert, if_pos rfl]
  · rw [Headers.values_insert, if_pos rfl]
  · rw [Headers.values_insert, if_neg hua.symm, Headers.values_insert, if_neg hca.symm]
    rfl

theorem defaultHeadersOf_eq (config : ClientConfig) :
    defaultHeadersOf config =
      match usedKey? config with
      | none => .ok keyless
      | some key =>
        if Headers.isValue ("Bearer " ++ key) then
          .ok (keyless.insert "authorization" ("Bearer " ++ key))
        else .error .badApiKey := rfl

theorem defaultHeadersOf_ok {config : ClientConfig} {hs : Headers}
    (h : defaultHeadersOf config = .ok hs) :
    (∀ own ∈ ownHeaders config, hs.values own.1 = own.2) ∧
      ∀ value ∈ bearer config, ∀ c ∈ value.toList, ¬ IsForbidden c := by
  obtain ⟨hcu, hca, hua⟩ := own_names_differ
  obtain ⟨hcontent, hagent, hkey⟩ := values_keyless
  rw [defaultHeadersOf_eq] at h
  simp only [ownHeaders, List.forall_mem_cons, bearer_eq]
  cases hk : usedKey? config with
  | none =>
    simp only [hk, Except.ok.injEq] at h
    subst h
    exact ⟨⟨hcontent, hagent, hkey, by simp⟩, by simp⟩
  | some key =>
    simp only [hk] at h
    split at h
    · next hvalue =>
      rw [Except.ok.injEq] at h
      subst h
      refine ⟨⟨?_, ?_, ?_, by simp⟩, ?_⟩
      · rwa [Headers.values_insert, if_neg hca]
      · rwa [Headers.values_insert, if_neg hua]
      · rw [Headers.values_insert, if_pos rfl]
        rfl
      · rintro value hmem
        rw [List.mem_singleton.mp hmem]
        exact (isValue_iff _).mp hvalue
    · cases h

theorem ofConfig_of_forbidden {config : ClientConfig} {key : String}
    (hkey : config.apiKey = some key) {c : Char} (hc : c ∈ Text.trim key.toList)
    (hbad : IsForbidden c) : ofConfig config = .error .badApiKey := by
  have hblank : Text.isBlankText key = false := by
    rw [← Bool.not_eq_true]
    intro hblank
    rw [(Text.trim_eq_nil_iff key.toList).mpr hblank] at hc
    cases hc
  have hused : usedKey? config = some (.ofList (Text.trim key.toList)) := by
    rw [usedKey?_of_some hkey, if_neg (by simp [hblank])]
  have hvalue : ¬ Headers.isValue ("Bearer " ++ .ofList (Text.trim key.toList)) = true := by
    rw [isValue_iff]
    intro hall
    exact hall c (by simp [hc]) hbad
  have hheaders : defaultHeadersOf config = .error .badApiKey := by
    rw [defaultHeadersOf_eq, hused]
    exact if_neg hvalue
  rw [ofConfig, hheaders]
  rfl

/-! ## The headers of a call -/

theorem headersFor_eq_merge {c : Client} (h : c.defaultHeaders.values "content-type" ≠ [])
    (r : ApiRequest) : c.headersFor r = c.defaultHeaders.merge r.headers := by
  have hcontains : (c.defaultHeaders.merge r.headers).contains "content-type" = true := by
    rw [← Bool.not_eq_false, ← Headers.values_eq_nil_iff, Headers.values_merge]
    split
    · next hr =>
      rw [Headers.values_eq_nil_iff, Bool.not_eq_false]
      exact hr
    · exact h
  rw [headersFor, if_neg (by simp [hcontains])]

theorem ownOrGiven_headersFor {config : ClientConfig} {c : Client}
    (hown : ∀ own ∈ ownHeaders config, c.defaultHeaders.values own.1 = own.2)
    (method endpoint : String) (steps : List ApiRequest.Step) :
    OwnOrGiven config steps (c.headersFor (.built method endpoint steps)) := by
  have hcontent : c.defaultHeaders.values "content-type" ≠ [] := by
    rw [hown ("content-type", ["application/json"]) List.mem_cons_self]
    simp
  intro own hmem
  have hgiven := ApiRequest.values_built own.1 method endpoint steps
  rw [headersFor_eq_merge hcontent, Headers.values_merge, hown own hmem, hgiven]
  cases hlast : ApiRequest.lastValue own.1 steps with
  | none =>
    -- The call has no such name, so that of the client stays.
    rw [hlast, Option.toList_none, Headers.values_eq_nil_iff] at hgiven
    rw [if_neg (by simp [hgiven])]
    rfl
  | some value =>
    -- The name of the call takes the place of the client's.
    have hset : Headers.contains (ApiRequest.built method endpoint steps).headers own.1 = true := by
      rw [← Bool.not_eq_false, ← Headers.values_eq_nil_iff, hgiven, hlast]
      simp
    rw [if_pos hset]
    rfl

theorem values_sentHeaders {credentials : String → Headers} {q : HttpRequest}
    (h : credentials q.url = .empty) (n : String) :
    (q.sentHeaders credentials).values n = q.headers.values n := by
  rw [HttpRequest.sentHeaders, h]
  exact Headers.empty_merge_same q.headers n

/-- Where a call was given a header it is sent as it was given last, and where not, as the client
has it, and so it is on the wire as long as the base names no user. No control is ever sent with the
key, since a client with such a key is never made. -/
theorem call_sends_own_headers_or_given (config : ClientConfig) :
    (∀ key ∈ config.apiKey, (∃ ch ∈ Text.trim key.toList, IsForbidden ch) →
      ofConfig config = .error .badApiKey) ∧
    ∀ c, ofConfig config = .ok c →
      (∀ value ∈ bearer config, ∀ ch ∈ value.toList, ¬ IsForbidden ch) ∧
      ∀ (method endpoint : String) (steps : List ApiRequest.Step) (s : Script) (tr : Trail),
        ∃ r q, (c.execute s.transport (.built method endpoint steps)).run tr = (r, tr.call q) ∧
          OwnOrGiven config steps q.headers ∧
          (Address.NamesNobody config.baseUrl.toList → Address.NamesNobody q.url.toList) ∧
          ∀ credentials : String → Headers,
            (∀ url, Address.NamesNobody url.toList → credentials url = .empty) →
            Address.NamesNobody q.url.toList → OwnOrGiven config steps (q.sentHeaders credentials) := by
  refine ⟨?_, ?_⟩
  · rintro key hkey ⟨ch, hch, hbad⟩
    exact ofConfig_of_forbidden hkey hch hbad
  · intro c hclient
    obtain ⟨hbase, hheaders⟩ := of_ofConfig hclient
    obtain ⟨hown, hvalid⟩ := defaultHeadersOf_ok hheaders
    refine ⟨hvalid, ?_⟩
    intro method endpoint steps s tr
    have hsaid := ownOrGiven_headersFor hown method endpoint steps
    refine ⟨_, _, s.run_execute tr c _, hsaid, ?_, ?_⟩
    · intro hnobody
      change Address.NamesNobody (Url.join c.baseUrl _).toList
      rw [hbase, Url.join_dropEndSlashes]
      exact hnobody.join _
    · intro credentials hnone hnobody own hmem
      rw [values_sentHeaders (hnone _ hnobody)]
      exact hsaid own hmem

def blankEndedKey : ClientConfig :=
  (ClientConfig.ofBaseUrl "http://h").withApiKey " k-1\t\u0085"

/-- What comes of the user `u`, who has no password. -/
def basicOf (url : String) : Headers :=
  if url = "http://u@h/v1/repos" then Headers.empty.insert "authorization" "Basic dTo=" else .empty

theorem basicOf_of_nobody (url : String) (h : Address.NamesNobody url.toList) :
    basicOf url = .empty := by
  refine if_neg ?_
  rintro rfl
  obtain ⟨scheme, s, hs, -, hnobody⟩ := h
  have hread : Address.scheme? (Address.cleaned "http://u@h/v1/repos".toList) =
      some (.http, "//u@h/v1/repos".toList) := by decide
  cases hread.symm.trans hs
  exact hnobody (by decide)

theorem probe_sends_key_and_last_agent :
    ofConfig ((ClientConfig.ofBaseUrl "http://h").withApiKey "k\n1") = .error .badApiKey ∧
    ∃ c r q, ofConfig blankEndedKey = .ok c ∧
      (c.execute (Script.transport ⟨fun _ => .timedOut "", fun _ => .ofSeconds 0⟩)
        (.built "POST" "/v1/repos" [.header "User-Agent" "a", .body .null,
          .header "USER-AGENT" "b"])).run .empty = (r, Trail.empty.call q) ∧
      (q.sentHeaders basicOf).values "authorization" = ["Bearer k-1"] ∧
      (q.sentHeaders basicOf).values "user-agent" = ["b"] ∧
      (q.sentHeaders basicOf).values "content-type" = ["application/json"] := by
  refine ⟨?_, ?_⟩
  · exact (call_sends_own_headers_or_given _).1 "k\n1" rfl ⟨'\n', by decide, by decide⟩
  · obtain ⟨-, hsends⟩ := (call_sends_own_headers_or_given blankEndedKey).2 _ rfl
    obtain ⟨r, q, hrun, -, hnobody, hwire⟩ := hsends "POST" "/v1/repos"
      [.header "User-Agent" "a", .body .null, .header "USER-AGENT" "b"]
      ⟨fun _ => .timedOut "", fun _ => .ofSeconds 0⟩ .empty
    have hbase : Address.NamesNobody blankEndedKey.baseUrl.toList :=
      ⟨.http, "//h".toList, by decide, by decide, by decide⟩
    have hvalues := hwire basicOf basicOf_of_nobody (hnobody hbase)
    refine ⟨_, r, q, rfl, hrun, ?_, ?_, ?_⟩
    · rw [hvalues ("authorization", bearer blankEndedKey) (by simp [ownHeaders])]
      decide
    · rw [hvalues ("user-agent", [userAgent]) (by simp [ownHeaders, userAgent])]
      decide
    · rw [hvalues ("content-type", ["application/json"]) (by simp [ownHeaders])]
      decide

end Client

end Portal

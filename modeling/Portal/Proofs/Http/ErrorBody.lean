import Portal.Proofs.Client.ErrorOrigin
import Portal.Proofs.Http.MediaType
import Portal.Proofs.Json.Members
import Portal.Proofs.Json.Objects

/-!
# What an error says

Its message and its details come from the body of the answer, as far as that is JSON and the status
does not say it all. A limit on calls adds the time after which to try again. A body whose type only
starts like that of JSON is read all the same.
-/

namespace Portal

/-! ## The time after which to try again -/

/-- Decimal digits, after a plus sign or not, of a number below `2 ^ 64`. -/
def WritesWhole (s : List Char) (n : Nat) : Prop :=
  n < 18446744073709551616 ∧
    ∃ ds, (s = ds ∨ s = '+' :: ds) ∧ ds ≠ [] ∧ (∀ d ∈ ds, Text.isDigit d = true) ∧
      Text.digitsVal ds = n

theorem wholeNumber?_of_ne {c : Char} (h : c ≠ '+') (s : List Char) :
    wholeNumber? (c :: s) = wholeNumber? ('+' :: c :: s) := by
  conv_lhs => unfold wholeNumber?
  split
  · next heq => exact absurd (List.cons.inj heq).1 h
  · rfl

theorem exists_unsigned (s : List Char) :
    ∃ ds, (s = ds ∨ s = '+' :: ds) ∧ wholeNumber? s = wholeNumber? ('+' :: ds) := by
  cases s with
  | nil => exact ⟨[], Or.inl rfl, rfl⟩
  | cons c s =>
    by_cases h : c = '+'
    · exact ⟨s, Or.inr (by rw [h]), by rw [h]⟩
    · exact ⟨c :: s, Or.inl rfl, wholeNumber?_of_ne h s⟩

theorem wholeNumber?_plus_eq_some_iff (ds : List Char) (n : Nat) :
    wholeNumber? ('+' :: ds) = some n ↔ n < 18446744073709551616 ∧ ds ≠ [] ∧
      (∀ d ∈ ds, Text.isDigit d = true) ∧ Text.digitsVal ds = n := by
  by_cases hds : ds ≠ [] ∧ ∀ d ∈ ds, Text.isDigit d = true
  · have hval : wholeNumber? ('+' :: ds) =
        if Text.digitsVal ds < 18446744073709551616 then some (Text.digitsVal ds) else none :=
      if_neg (by simpa using hds)
    rw [hval, Option.ite_none_right_eq_some, Option.some.injEq]
    constructor
    · rintro ⟨hlt, rfl⟩
      exact ⟨hlt, hds.1, hds.2, rfl⟩
    · rintro ⟨hlt, -, -, rfl⟩
      exact ⟨hlt, rfl⟩
  · have hnone : wholeNumber? ('+' :: ds) = none :=
      if_pos (by simpa [Classical.or_iff_not_imp_left] using hds)
    rw [hnone]
    constructor
    · rintro ⟨⟩
    · rintro ⟨-, hne, hdigits, -⟩
      exact absurd ⟨hne, hdigits⟩ hds

theorem wholeNumber?_eq_some_iff (s : List Char) (n : Nat) :
    wholeNumber? s = some n ↔ WritesWhole s n := by
  constructor
  · intro h
    obtain ⟨ds, hs, heq⟩ := exists_unsigned s
    obtain ⟨hlt, hwrites⟩ := (wholeNumber?_plus_eq_some_iff ds n).mp (heq ▸ h)
    exact ⟨hlt, ds, hs, hwrites⟩
  · rintro ⟨hlt, ds, rfl | rfl, hwrites⟩
    · obtain ⟨d, ds, rfl⟩ := List.exists_cons_of_ne_nil hwrites.1
      have hdigit : Text.isDigit d = true := hwrites.2.1 d List.mem_cons_self
      -- A digit is no plus sign, so nothing is cut off.
      have hne : d ≠ '+' := by
        rintro rfl
        exact absurd hdigit (by decide)
      rw [wholeNumber?_of_ne hne]
      exact (wholeNumber?_plus_eq_some_iff _ n).mpr ⟨hlt, hwrites⟩
    · exact (wholeNumber?_plus_eq_some_iff ds n).mpr ⟨hlt, hwrites⟩

namespace Answer

variable (a : Answer) (IsJson : String → Prop)

/-- The content type is that of JSON, and all of the body together reads as `v`. -/
def Carries (v : Json) : Prop :=
  (∃ t, a.contentType = some t ∧ IsJson t) ∧ Json.parse a.body = .ok v

/-- The messages of the statuses that say it all. -/
def fixedMessage? (status : Nat) : Option String :=
  if status = 401 then some "Authentication failed"
  else if status = 403 then some "Access denied"
  else if status = 404 then some "Resource not found"
  else none

/-- Details of a limit on calls, where the header says `retryAfter`. -/
structure Limits (retryAfter : String) (ms : Members) : Prop where
  others : ∀ key, key ≠ "retry_after" → ∀ v,
    ms.get? key = some v ↔ ∃ body, a.Carries IsJson (.object body) ∧ Members.get? body key = some v
  seconds : ∀ n, WritesWhole (Text.trim retryAfter.toList) n →
    ms.get? "retry_after" = some (.int n)
  text : (∀ n, ¬ WritesWhole (Text.trim retryAfter.toList) n) →
    ms.get? "retry_after" = some (.string (.ofList (Text.trim retryAfter.toList)))

/-- What the error of an answer says, and where it has it from. -/
structure Reports (e : PortalError) : Prop where
  fixed : ∀ m, fixedMessage? a.status = some m → e.message = m
  said : fixedMessage? a.status = none → ∀ body t, a.Carries IsJson (.object body) →
    Members.get? body "error" = some (.string t) → e.message = t
  unsaid : fixedMessage? a.status = none →
    (∀ body t, a.Carries IsJson (.object body) → Members.get? body "error" ≠ some (.string t)) →
    e.message = s!"HTTP {a.status}"
  details : a.status ≠ 429 ∨ a.retryAfter = none →
    ∀ ms, e.details = some ms ↔ a.Carries IsJson (.object ms)
  limits : a.status = 429 → ∀ r, a.retryAfter = some r →
    ∃ ms, e.details = some ms ∧ a.Limits IsJson r ms
  ordered : ∀ ms, e.details = some ms → ms.IsOrdered
  readable : e.kind ≠ .decode

/-- An object whose type only starts like that of JSON, and that shows in the error. What the header
of a limit says does not come from the body. -/
def Misreads : Prop :=
  ∃ body, a.Carries OutgrowsJson (.object body) ∧
    (a.status = 429 → a.retryAfter ≠ none →
      ∃ key, key ≠ "retry_after" ∧ Members.get? body key ≠ none)

/-! ## The body -/

theorem isJson_iff : a.isJson = true ↔ ∃ t, a.contentType = some t ∧ StartsLikeJson t := by
  simp only [startsLikeJson_iff]
  rw [isJson]
  cases a.contentType <;> simp

theorem value?_eq_some_iff (v : Json) : a.value? = some v ↔ a.Carries StartsLikeJson v := by
  rw [value?, Carries, ← isJson_iff]
  split
  · next h =>
    cases Json.parse a.body <;> simp [Except.toOption, h]
  · next h => simp [h]

theorem details_eq_some_iff (ms : Members) :
    a.details = some ms ↔ a.Carries StartsLikeJson (.object ms) := by
  rw [details, Option.bind_eq_some_iff]
  constructor
  · rintro ⟨v, hv, hms⟩
    cases v <;> cases hms
    exact (a.value?_eq_some_iff _).mp hv
  · intro h
    exact ⟨.object ms, (a.value?_eq_some_iff _).mpr h, rfl⟩

variable {a} {IsJson}

theorem errorMessage_of_said {body : Members} {t : String} (h : a.Carries StartsLikeJson (.object body))
    (ht : Members.get? body "error" = some (.string t)) : a.errorMessage = t := by
  rw [errorMessage, (a.value?_eq_some_iff _).mpr h, Option.bind_some, Json.get?, ht]
  rfl

theorem errorMessage_of_unsaid
    (h : ∀ body t, a.Carries StartsLikeJson (.object body) →
      Members.get? body "error" ≠ some (.string t)) :
    a.errorMessage = s!"HTTP {a.status}" := by
  have hnone : (a.value?.bind (Json.get? "error")).bind Json.string? = none := by
    rw [Option.eq_none_iff_forall_ne_some]
    intro t ht
    obtain ⟨member, hmember, hstring⟩ := Option.bind_eq_some_iff.mp ht
    obtain ⟨v, hv, hget⟩ := Option.bind_eq_some_iff.mp hmember
    cases member <;> cases hstring
    -- Only an object has a text under the key, and `h` rules that out.
    cases v with
    | object body => exact h body t ((a.value?_eq_some_iff _).mp hv) hget
    | null | bool | int | float | string | array => cases hget
  rw [errorMessage, hnone]
  rfl

theorem Carries.isOrdered {ms : Members} (h : a.Carries IsJson (.object ms)) : ms.IsOrdered :=
  Json.isOrdered_of_parse h.2

/-! ## The details of a limit on calls -/

variable (a)

theorem retryValue_of_writes {r : String} {n : Nat} (h : WritesWhole (Text.trim r.toList) n) :
    retryValue r = .int n := by
  rw [retryValue, (wholeNumber?_eq_some_iff _ n).mpr h]

theorem retryValue_of_not_writes {r : String}
    (h : ∀ n, ¬ WritesWhole (Text.trim r.toList) n) :
    retryValue r = .string (.ofList (Text.trim r.toList)) := by
  have hnone : wholeNumber? (Text.trim r.toList) = none := by
    rw [Option.eq_none_iff_forall_ne_some]
    exact fun n hn => h n ((wholeNumber?_eq_some_iff _ n).mp hn)
  rw [retryValue, hnone]

theorem limits_insert (r : String) :
    a.Limits StartsLikeJson r ((a.details.getD []).insert "retry_after" (retryValue r)) where
  others key hkey v := by
    rw [Members.get?_insert, if_neg hkey]
    constructor
    · intro h
      cases hbody : a.details with
      | none => rw [hbody] at h; cases h
      | some body =>
        rw [hbody] at h
        exact ⟨body, (a.details_eq_some_iff body).mp hbody, h⟩
    · rintro ⟨body, hbody, h⟩
      rw [(a.details_eq_some_iff body).mpr hbody]
      exact h
  seconds n h := by rw [Members.get?_insert, if_pos rfl, retryValue_of_writes h]
  text h := by rw [Members.get?_insert, if_pos rfl, retryValue_of_not_writes h]

theorem isOrdered_getD_details : (a.details.getD []).IsOrdered := by
  cases hbody : a.details with
  | none => exact List.Pairwise.nil
  | some body => exact ((a.details_eq_some_iff body).mp hbody).isOrdered

/-! ## The error -/

theorem message_error : a.error.message = (fixedMessage? a.status).getD a.errorMessage := by
  unfold error fixedMessage?
  split_ifs <;> rfl

theorem details_error :
    a.error.details = if a.status = 429 then a.rateLimitDetails else a.details := by
  unfold error
  split_ifs <;> first | omega | rfl

/-- A limit on calls with a header has details of its own. All others have those of the body. -/
theorem details_error_cases :
    (a.status = 429 ∧ ∃ r, a.retryAfter = some r ∧
      a.error.details = some ((a.details.getD []).insert "retry_after" (retryValue r))) ∨
    ((a.status ≠ 429 ∨ a.retryAfter = none) ∧ a.error.details = a.details) := by
  rw [details_error]
  by_cases hlimit : a.status = 429
  · rw [if_pos hlimit]
    cases hr : a.retryAfter with
    | none => exact Or.inr ⟨Or.inr rfl, by rw [rateLimitDetails, hr]⟩
    | some r => exact Or.inl ⟨hlimit, r, rfl, by rw [rateLimitDetails, hr]⟩
  · exact Or.inr ⟨Or.inl hlimit, if_neg hlimit⟩

theorem reports_error : a.Reports StartsLikeJson a.error where
  fixed m h := by rw [message_error, h]; rfl
  said h body t hbody ht := by
    rw [message_error, h, Option.getD_none, errorMessage_of_said hbody ht]
  unsaid h hbody := by
    rw [message_error, h, Option.getD_none, errorMessage_of_unsaid hbody]
  details h ms := by
    obtain ⟨hlimit, r, hr, -⟩ | ⟨-, hdetails⟩ := a.details_error_cases
    · rw [hr] at h
      rcases h with h | h
      · exact absurd hlimit h
      · cases h
    · rw [hdetails, details_eq_some_iff]
  limits hlimit r hr := by
    obtain ⟨-, r', hr', hdetails⟩ | ⟨hno, -⟩ := a.details_error_cases
    · cases hr.symm.trans hr'
      exact ⟨_, hdetails, a.limits_insert r⟩
    · rw [hr] at hno
      rcases hno with hno | hno
      · exact absurd hlimit hno
      · cases hno
  ordered ms h := by
    obtain ⟨-, r, -, hdetails⟩ | ⟨-, hdetails⟩ := a.details_error_cases
    · rw [hdetails] at h
      cases h
      exact Members.isOrdered_insert _ _ a.isOrdered_getD_details
    · exact ((a.details_eq_some_iff ms).mp (hdetails ▸ h)).isOrdered
  readable h := kind_error a (h ▸ List.mem_cons_self)

/-! ## Types that start like that of JSON -/

variable {a}

theorem Carries.startsLikeJson {v : Json}
    (h : a.Carries IsJsonType v ∨ a.Carries OutgrowsJson v) : a.Carries StartsLikeJson v := by
  rcases h with ⟨⟨t, ht, htype⟩, hv⟩ | ⟨⟨t, ht, htype⟩, hv⟩
  · exact ⟨⟨t, ht, Or.inl htype⟩, hv⟩
  · exact ⟨⟨t, ht, Or.inr htype⟩, hv⟩

theorem Carries.cases {v : Json} (h : a.Carries StartsLikeJson v) :
    a.Carries IsJsonType v ∨ a.Carries OutgrowsJson v := by
  obtain ⟨⟨t, ht, htype | htype⟩, hv⟩ := h
  · exact Or.inl ⟨⟨t, ht, htype⟩, hv⟩
  · exact Or.inr ⟨⟨t, ht, htype⟩, hv⟩

theorem Carries.not_isJsonType {v v' : Json} (h : a.Carries OutgrowsJson v) :
    ¬ a.Carries IsJsonType v' := by
  obtain ⟨⟨t, ht, hout⟩, -⟩ := h
  rintro ⟨⟨t', ht', htype⟩, -⟩
  rw [ht, Option.some.injEq] at ht'
  subst ht'
  exact not_isJsonType_of_outgrowsJson hout htype

theorem Carries.eq_object {IsJson' : String → Prop} {ms ms' : Members}
    (h : a.Carries IsJson (.object ms)) (h' : a.Carries IsJson' (.object ms')) : ms = ms' := by
  have heq := h.2.symm.trans h'.2
  rw [Except.ok.injEq, Json.object.injEq] at heq
  exact heq

variable {e : PortalError}

/-- The member of an object in the body. -/
def Shows (a : Answer) (IsJson : String → Prop) (key : String) (v : Json) : Prop :=
  ∃ body, a.Carries IsJson (.object body) ∧ Members.get? body key = some v

theorem Reports.congr {IsJson' : String → Prop} (h : a.Reports IsJson e)
    (hshows : ∀ key, key ≠ "retry_after" → ∀ v, a.Shows IsJson key v ↔ a.Shows IsJson' key v)
    (hdetails : a.status ≠ 429 ∨ a.retryAfter = none →
      ∀ ms, a.Carries IsJson (.object ms) ↔ a.Carries IsJson' (.object ms)) :
    a.Reports IsJson' e where
  fixed := h.fixed
  said hfixed body t hbody ht := by
    obtain ⟨body, hbody, ht⟩ := (hshows "error" (by decide) (.string t)).mpr ⟨body, hbody, ht⟩
    exact h.said hfixed body t hbody ht
  unsaid hfixed hno := by
    refine h.unsaid hfixed fun body t hbody ht => ?_
    obtain ⟨body, hbody, ht⟩ := (hshows "error" (by decide) (.string t)).mp ⟨body, hbody, ht⟩
    exact hno body t hbody ht
  details hplain ms := (h.details hplain ms).trans (hdetails hplain ms)
  limits hlimit r hr := by
    obtain ⟨ms, hms, hl⟩ := h.limits hlimit r hr
    refine ⟨ms, hms, ?_, hl.seconds, hl.text⟩
    intro key hkey v
    exact (hl.others key hkey v).trans (hshows key hkey v)
  ordered := h.ordered
  readable := h.readable

theorem Misreads.not_reports (h : a.Reports StartsLikeJson e) (hmis : a.Misreads) :
    ¬ a.Reports IsJsonType e := by
  intro hjson
  obtain ⟨body, hbody, hshows⟩ := hmis
  have hlike : a.Carries StartsLikeJson (.object body) := Carries.startsLikeJson (Or.inr hbody)
  by_cases hlimit : a.status = 429 ∧ a.retryAfter ≠ none
  · obtain ⟨key, hkey, hmember⟩ := hshows hlimit.1 hlimit.2
    obtain ⟨v, hv⟩ := Option.ne_none_iff_exists'.mp hmember
    obtain ⟨r, hr⟩ := Option.ne_none_iff_exists'.mp hlimit.2
    obtain ⟨ms, hms, hl⟩ := h.limits hlimit.1 r hr
    obtain ⟨ms', hms', hl'⟩ := hjson.limits hlimit.1 r hr
    cases hms.symm.trans hms'
    obtain ⟨_, hno, -⟩ := (hl'.others key hkey v).mp ((hl.others key hkey v).mpr ⟨body, hlike, hv⟩)
    exact hbody.not_isJsonType hno
  · have hplain : a.status ≠ 429 ∨ a.retryAfter = none :=
      (not_and_or.mp hlimit).imp_right not_not.mp
    exact hbody.not_isJsonType
      ((hjson.details hplain body).mp ((h.details hplain body).mpr hlike))

theorem reports_isJsonType_iff (h : a.Reports StartsLikeJson e) :
    a.Reports IsJsonType e ↔ ¬ a.Misreads := by
  refine ⟨fun hjson hmis => hmis.not_reports h hjson, ?_⟩
  intro hmis
  by_cases hout : ∃ body, a.Carries OutgrowsJson (.object body)
  · obtain ⟨body, hbody⟩ := hout
    have hhidden : a.status = 429 ∧ a.retryAfter ≠ none ∧
        ∀ key, key ≠ "retry_after" → Members.get? body key = none := by
      by_contra hno
      refine hmis ⟨body, hbody, fun hlimit hr => ?_⟩
      by_contra hkeys
      refine hno ⟨hlimit, hr, fun key hkey => ?_⟩
      by_contra hmember
      exact hkeys ⟨key, hkey, hmember⟩
    -- The header says the only thing that the body says, so nothing of the body shows.
    obtain ⟨hlimit, hr, hkeys⟩ := hhidden
    refine h.congr ?_ fun hplain => (hplain.elim (absurd hlimit) fun hno => absurd hno hr)
    intro key hkey v
    constructor
    · rintro ⟨ms, hms, hv⟩
      rw [← hbody.eq_object hms, hkeys key hkey] at hv
      cases hv
    · rintro ⟨ms, hms, -⟩
      exact absurd hms hbody.not_isJsonType
  · have hsame : ∀ ms, a.Carries StartsLikeJson (.object ms) ↔ a.Carries IsJsonType (.object ms) := by
      intro ms
      constructor
      · intro hms
        exact hms.cases.resolve_right fun hms => hout ⟨ms, hms⟩
      · intro hms
        exact Carries.startsLikeJson (Or.inl hms)
    refine h.congr ?_ fun _ => hsame
    intro key _ v
    simp only [Shows, hsame]

variable (a)

/-- The error of an answer with a status of 400 or more says what the body says, and no body is too
broken for that. It takes a body for JSON as soon as its type starts like that of JSON, so the types
that go on after that are the ones where it says too much. -/
theorem error_reports_body_iff (h : 400 ≤ a.status) :
    ∃ e, a.payload = .error e ∧ a.Reports StartsLikeJson e ∧
      (a.Reports IsJsonType e ↔ ¬ a.Misreads) :=
  ⟨a.error, StatusTable.payload_of_failure a h, a.reports_error,
    reports_isJsonType_iff a.reports_error⟩

theorem slow_down_says_header_seconds :
    400 ≤ 429 ∧ ∃ e, Answer.payload ⟨429, some " Application/JSON; charset=utf-8", some " +30\t",
        "\x7b\"error\": \"slow\", \"retry_after\": \"later\", \"z\": [1]\x7d"⟩ = .error e ∧
      e.message = "slow" ∧ ∃ ms, e.details = some ms ∧ ms.IsOrdered ∧
        ms.get? "retry_after" = some (.int 30) ∧ ms.get? "error" = some (.string "slow") ∧
        ms.get? "z" = some (.array [.int 1]) := by
  let body : Members :=
    [("error", .string "slow"), ("retry_after", .string "later"), ("z", .array [.int 1])]
  let a : Answer := ⟨429, some " Application/JSON; charset=utf-8", some " +30\t",
    "\x7b\"error\": \"slow\", \"retry_after\": \"later\", \"z\": [1]\x7d"⟩
  have htype : IsJsonType " Application/JSON; charset=utf-8" := by decide +kernel
  have hbody : a.Carries IsJsonType (.object body) := by
    refine ⟨⟨_, rfl, htype⟩, ?_⟩
    cbv
  have hread : ¬ a.Misreads := by
    rintro ⟨_, hout, -⟩
    exact hout.not_isJsonType hbody
  obtain ⟨e, hpayload, -, hjson⟩ := error_reports_body_iff a (by decide)
  have hreports := hjson.mpr hread
  obtain ⟨ms, hdetails, hlimits⟩ := hreports.limits rfl _ rfl
  have hothers (key : String) (v : Json) (hkey : key ≠ "retry_after")
      (h : Members.get? body key = some v) : ms.get? key = some v :=
    (hlimits.others key hkey v).mpr ⟨body, hbody, h⟩
  refine ⟨by decide, e, hpayload, hreports.said rfl body "slow" hbody rfl, ms, hdetails,
    hreports.ordered ms hdetails, hlimits.seconds 30 ?_, hothers _ _ (by decide) rfl,
    hothers _ _ (by decide) rfl⟩
  exact (wholeNumber?_eq_some_iff _ 30).mp (by decide +kernel)

def scriptError : Answer :=
  ⟨500, some "application/jsonp", none, "\x7b\"error\":\"x\"\x7d"⟩

theorem script_error_says_script :
    ¬ IsJsonType "application/jsonp" ∧
      scriptError.payload = .error (.server 500 "x" (some [("error", .string "x")])) ∧
      ¬ scriptError.Reports IsJsonType (.server 500 "x" (some [("error", .string "x")])) := by
  have htype : ¬ IsJsonType "application/jsonp" := by decide
  have hbody : scriptError.Carries StartsLikeJson (.object [("error", .string "x")]) := by
    refine ⟨⟨_, rfl, (startsLikeJson_iff _).mpr (by decide)⟩, ?_⟩
    cbv
  have hsaid : scriptError.errorMessage = "x" := errorMessage_of_said hbody rfl
  have hdetails : scriptError.details = some [("error", .string "x")] :=
    (scriptError.details_eq_some_iff _).mpr hbody
  refine ⟨htype, ?_, ?_⟩
  · calc scriptError.payload = .error scriptError.error :=
          StatusTable.payload_of_failure scriptError (by decide)
      _ = .error (.server 500 scriptError.errorMessage scriptError.details) := rfl
      _ = _ := by rw [hsaid, hdetails]
  · intro h
    obtain ⟨⟨t, ht, hjson⟩, -⟩ := (h.details (Or.inr rfl) _).mp rfl
    cases ht
    exact htype hjson

end Answer

end Portal

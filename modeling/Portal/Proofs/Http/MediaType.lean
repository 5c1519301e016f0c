import Portal.Http.Answer
import Portal.Proofs.Text.Trim

/-!
# What counts as JSON

The media type of an answer decides whether its body is read as JSON. It has to start with the name
of JSON, so every longer type that starts like it counts as JSON too.
-/

namespace Portal

/-! ## Media types -/

/-- What stands before the first semicolon, without blanks around it and without regard to case. -/
def mediaType (contentType : String) : List Char :=
  Text.lower (Text.trim (contentType.toList.takeWhile (· != ';')))

def IsJsonType (contentType : String) : Prop :=
  mediaType contentType = "application/json".toList

instance (contentType : String) : Decidable (IsJsonType contentType) :=
  inferInstanceAs (Decidable (_ = _))

/-- The name of JSON and more after it. -/
def OutgrowsJson (contentType : String) : Prop :=
  ∃ c more, mediaType contentType = "application/json".toList ++ c :: more

def StartsLikeJson (contentType : String) : Prop :=
  IsJsonType contentType ∨ OutgrowsJson contentType

/-- Nothing but JSON is read as JSON, and every other text is handed on as it is. -/
structure ReadsOnlyJson (contentType : String) : Prop where
  judged : isJsonContentType contentType = true ↔ IsJsonType contentType
  wrapped : ¬ IsJsonType contentType → ∀ a : Answer, a.contentType = some contentType →
    a.status < 400 → a.payload = .ok (.object [("data", .string a.body)])

/-! ## Texts that start alike -/

namespace Text

variable {p : List Char}

theorem prefix_append_iff {a b : List Char} (h : ∀ c ∈ b.head?, c ∉ p) : p <+: a ++ b ↔ p <+: a := by
  constructor
  · intro hab
    rcases List.prefix_or_prefix_of_prefix hab (List.prefix_append a b) with ha | ⟨more, rfl⟩
    · exact ha
    · have hmore := (List.prefix_append_right_inj a).mp hab
      cases more with
      | nil => simp
      | cons c more =>
        obtain ⟨rest, rfl⟩ := hmore
        exact absurd (by simp) (h c rfl)
  · intro ha
    exact ha.trans (List.prefix_append a b)

theorem lower_append (s t : List Char) : lower (s ++ t) = lower s ++ lower t :=
  List.map_append

theorem toLower_of_isBlank {c : Char} (h : isBlank c = true) : c.toLower = c := by
  apply dif_neg
  rintro ⟨hlow, hhigh⟩
  have hlow : 65 ≤ c.toNat := hlow
  have hhigh : c.toNat ≤ 90 := hhigh
  simp only [isBlank, Bool.or_eq_true, Bool.and_eq_true, decide_eq_true_eq, beq_iff_eq] at h
  omega

theorem prefix_lower_trim_iff (hp : ∀ c ∈ p, isBlank c = false) (s : List Char) :
    p <+: lower (trim s) ↔ p <+: lower (trimStart s) := by
  obtain ⟨b, hb, hs⟩ := trim_append s
  rw [← hs, lower_append, prefix_append_iff]
  intro c hc hmem
  rw [lower, List.head?_map, Option.mem_def, Option.map_eq_some_iff] at hc
  obtain ⟨d, hd, rfl⟩ := hc
  have hblank := hb d (List.mem_of_mem_head? hd)
  rw [toLower_of_isBlank hblank] at hmem
  rw [hp d hmem] at hblank
  cases hblank

theorem prefix_lower_takeWhile_iff {c : Char} (hc : isBlank c = false) (hp : c.toLower ∉ p)
    (s : List Char) :
    p <+: lower (trimStart (s.takeWhile (· != c))) ↔ p <+: lower (trimStart s) := by
  by_cases hmem : c ∈ s
  · obtain ⟨a, b, rfl, ha⟩ := List.eq_append_cons_of_mem hmem
    have hcut : (a ++ c :: b).takeWhile (· != c) = a := by
      rw [List.takeWhile_append, takeWhile_of_not_mem ha, if_pos rfl,
        List.takeWhile_cons_of_neg (by simp), List.append_nil]
    rw [hcut, trimStart_append_cons hc, lower_append, prefix_append_iff]
    intro d hd
    obtain rfl : c.toLower = d := by simpa [lower] using hd
    exact hp
  · rw [takeWhile_of_not_mem hmem]

end Text

/-! ## What is read as JSON -/

theorem isJsonContentType_iff (contentType : String) :
    isJsonContentType contentType = true ↔
      "application/json".toList <+: mediaType contentType := by
  have hblank : ∀ c ∈ "application/json".toList, Text.isBlank c = false := by simp [Text.isBlank]
  rw [isJsonContentType, List.isPrefixOf_iff_prefix, mediaType, Text.prefix_lower_trim_iff hblank,
    Text.prefix_lower_trim_iff hblank, Text.prefix_lower_takeWhile_iff (by decide) (by decide)]

theorem startsLikeJson_iff (contentType : String) :
    StartsLikeJson contentType ↔ isJsonContentType contentType = true := by
  rw [isJsonContentType_iff, StartsLikeJson, IsJsonType, OutgrowsJson]
  constructor
  · rintro (h | ⟨c, more, h⟩)
    · exact h ▸ List.prefix_rfl
    · exact h ▸ List.prefix_append ..
  · rintro ⟨more, h⟩
    cases more with
    | nil => exact Or.inl (by rw [← h, List.append_nil])
    | cons c more => exact Or.inr ⟨c, more, h.symm⟩

theorem not_isJsonType_of_outgrowsJson {contentType : String} (h : OutgrowsJson contentType) :
    ¬ IsJsonType contentType := by
  obtain ⟨c, more, hmore⟩ := h
  rw [IsJsonType, hmore, List.append_right_eq_self]
  exact List.cons_ne_nil c more

/-! ## Answers -/

namespace Answer

variable {a : Answer}

theorem isJson_of_contentType {t : String} (h : a.contentType = some t) :
    a.isJson = isJsonContentType t := by
  rw [isJson, h]
  rfl

theorem payload_of_plain (hstatus : a.status < 400) (h : a.isJson = false) :
    a.payload = .ok (.object [("data", .string a.body)]) := by
  rw [payload, if_pos hstatus, success, h]
  rfl

theorem payload_of_json (hstatus : a.status < 400) (h : a.isJson = true) :
    a.payload = (Json.parse a.body).mapError fun m =>
      .decode s!"invalid JSON body (HTTP {a.status}): {m}" := by
  rw [payload, if_pos hstatus, success, if_pos h]

end Answer

/-- A content type reads only JSON as JSON unless its media type goes on after the name of JSON. Then
each success is read as JSON whatever it is, and fails where it is something else. -/
theorem readsOnlyJson_iff (contentType : String) :
    (ReadsOnlyJson contentType ↔ ¬ OutgrowsJson contentType) ∧
      (OutgrowsJson contentType → ∀ a : Answer, a.contentType = some contentType →
        a.status < 400 → a.payload = (Json.parse a.body).mapError fun m =>
          .decode s!"invalid JSON body (HTTP {a.status}): {m}") := by
  have hjudged := startsLikeJson_iff contentType
  refine ⟨⟨?_, ?_⟩, ?_⟩
  · intro h hlonger
    exact not_isJsonType_of_outgrowsJson hlonger (h.judged.mp (hjudged.mp (Or.inr hlonger)))
  · intro hlonger
    rw [StartsLikeJson, or_iff_left hlonger] at hjudged
    refine ⟨hjudged.symm, ?_⟩
    intro htype a ha hstatus
    apply Answer.payload_of_plain hstatus
    rw [Answer.isJson_of_contentType ha, ← Bool.not_eq_true, ← hjudged]
    exact htype
  · intro hlonger a ha hstatus
    apply Answer.payload_of_json hstatus
    rw [Answer.isJson_of_contentType ha, ← hjudged]
    exact Or.inr hlonger

/-- A script is no JSON, but its type starts like that of JSON. -/
theorem script_is_read_as_json :
    ¬ IsJsonType "application/jsonp" ∧ isJsonContentType "application/jsonp" = true ∧
      Answer.payload ⟨200, some "application/jsonp", none, "show()"⟩ = .error
        (.decode "invalid JSON body (HTTP 200): expected value at line 1 column 1") ∧
      ¬ ReadsOnlyJson "application/jsonp" := by
  have htype : ¬ IsJsonType "application/jsonp" := by decide
  have hjudged : isJsonContentType "application/jsonp" = true := by decide
  refine ⟨htype, hjudged, rfl, ?_⟩
  intro h
  exact htype (h.judged.mp hjudged)

end Portal

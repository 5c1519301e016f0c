import Portal.Envelope
import Portal.Proofs.Wire.Acceptance
import Portal.Proofs.Wire.RoundTrip

/-!
# Ways to open an envelope

The payload of an envelope is taken out strictly, or with a default where there is none, or with the
rest of the envelope around it. All three find the same payload, and they differ only in what they
make of one that is missing and of the members beside it.
-/

namespace Portal

namespace Envelope

/-- What the strict and the lenient way make of a value. -/
structure OpensAlike (w : Wire α) (default : α) (what : String) (v : Json) : Prop where
  there : ∀ (ms : Members) (data : Json), v = .object ms → ms.get? "data" = some data → data ≠ .null →
    payload w what v = w.decodeAs what data ∧ payloadOr default w what v = w.decodeAs what data
  null : ∀ ms : Members, v = .object ms → ms.get? "data" = some .null →
    payload w what v = w.decodeAs what .null ∧ payloadOr default w what v = .ok default
  absent : ∀ ms : Members, v = .object ms → ms.get? "data" = none →
    (∃ m, payload w what v = .error (.decode m)) ∧ payloadOr default w what v = .ok default
  no_object : (∀ ms, v ≠ .object ms) →
    ∃ m, payload w what v = .error (.decode m) ∧ payloadOr default w what v = .error (.decode m)

/-- A member that stands under a name of the envelope and cannot stand there. -/
inductive IsMisfit : String × Json → Prop
  | success {v : Json} (h : ∀ b, v ≠ .bool b) : IsMisfit ("success", v)
  | text {key : String} {v : Json} (hkey : key = "error" ∨ key = "message") (hnull : v ≠ .null)
      (h : ∀ s, v ≠ .string s) : IsMisfit (key, v)

/-! ## The payload alone -/

section Payload

variable (w : Wire α) (default : α) (what : String) {ms : Members} {data : Json}

theorem payload_of_data (h : ms.get? "data" = some data) :
    payload w what (.object ms) = w.decodeAs what data := by
  rw [payload, data?, h]
  rfl

theorem payloadOr_of_data (h : ms.get? "data" = some data) (hnull : data ≠ .null) :
    payloadOr default w what (.object ms) = w.decodeAs what data := by
  rw [payloadOr, data?, h]
  cases data with
  | null => exact absurd rfl hnull
  | _ => rfl

theorem payloadOr_of_nothing (h : ms.get? "data" = none ∨ ms.get? "data" = some .null) :
    payloadOr default w what (.object ms) = .ok default := by
  rw [payloadOr, data?]
  rcases h with h | h <;> rw [h] <;> rfl

theorem data?_of_no_object {v : Json} (h : ∀ ms, v ≠ .object ms) :
    ∃ m, data? what v = .error (.decode m) := by
  cases v with
  | object ms => exact absurd rfl (h ms)
  | _ => exact ⟨_, rfl⟩

theorem opensAlike (v : Json) : OpensAlike w default what v where
  there := by
    rintro ms data rfl h hnull
    exact ⟨payload_of_data w what h, payloadOr_of_data w default what h hnull⟩
  null := by
    rintro ms rfl h
    exact ⟨payload_of_data w what h, payloadOr_of_nothing w default what (Or.inr h)⟩
  absent := by
    rintro ms rfl h
    refine ⟨⟨s!"{what}: missing `data` field", ?_⟩, payloadOr_of_nothing w default what (Or.inl h)⟩
    rw [payload, data?, h]
    rfl
  no_object := by
    intro h
    obtain ⟨m, hm⟩ := data?_of_no_object what h
    refine ⟨m, ?_, ?_⟩
    · rw [payload, hm]
      rfl
    · rw [payloadOr, hm]
      rfl

end Payload

/-! ## The whole envelope -/

theorem isOk_bool_iff (v : Json) :
    (Wire.bool.decode v).map (fun _ => ()) = .ok () ↔ ¬ ∀ b, v ≠ .bool b := by
  cases v <;> simp [Wire.bool, Except.map]

theorem isOk_optional_string_iff (v : Json) :
    (Wire.string.option.decode v).map (fun _ => ()) = .ok () ↔
      ¬ (v ≠ .null ∧ ∀ s, v ≠ .string s) := by
  cases v <;> simp [Wire.string, Wire.option, Except.map]

theorem isMisfit_iff (key : String) (v : Json) :
    IsMisfit (key, v) ↔ (key = "success" ∧ ∀ b, v ≠ .bool b) ∨
      ((key = "error" ∨ key = "message") ∧ v ≠ .null ∧ ∀ s, v ≠ .string s) := by
  constructor
  · rintro (h | ⟨hkey, hnull, h⟩)
    · exact Or.inl ⟨rfl, h⟩
    · exact Or.inr ⟨hkey, hnull, h⟩
  · rintro (⟨rfl, h⟩ | ⟨hkey, hnull, h⟩)
    · exact .success h
    · exact .text hkey hnull h

theorem exists_decode_iff (ms : Members) :
    (∃ r, (ApiResponse.wire .any).decode (.object ms) = .ok r) ↔
      (∀ p ∈ ms, ¬ IsMisfit p) ∧ ∃ data, ms.get? "data" = some data := by
  rw [ApiResponse.wire, Wire.exists_record_decode_iff (by simp)]
  refine and_congr (forall₂_congr ?_) (by simp)
  rintro ⟨key, v⟩ -
  simp only [Fields.checkMember, Fields.defaulted, Fields.required, Fields.omissible,
    isMisfit_iff]
  -- At most one of the four names is the key, and what can be read under it is known.
  split
  · next h => subst h; simp [isOk_bool_iff]
  split
  · next h => subst h; simp [Wire.any, Except.map]
  split
  · next h => subst h; simp [isOk_optional_string_iff]
  split
  · next h => subst h; simp [isOk_optional_string_iff]
  · next h₁ h₂ h₃ h₄ => simp [Ne.symm h₁, Ne.symm h₃, Ne.symm h₄]

theorem get?_of_decode {ms : Members} {r : ApiResponse Json}
    (h : (ApiResponse.wire .any).decode (.object ms) = .ok r) : ms.get? "data" = some r.data := by
  obtain ⟨_, -, h⟩ := exists_of_bind_eq_ok h
  obtain ⟨success, -, h⟩ := exists_of_bind_eq_ok h
  obtain ⟨data, hdata, h⟩ := exists_of_bind_eq_ok h
  obtain ⟨error, -, h⟩ := exists_of_bind_eq_ok h
  obtain ⟨message, -, h⟩ := exists_of_bind_eq_ok h
  cases h
  cases hget : ms.get? "data" with
  | some v =>
    simp only [hget, Fields.ofMember, Wire.any] at hdata
    cases hdata
    rfl
  | none =>
    simp only [hget, Fields.ofMember] at hdata
    cases hdata

theorem ofJson_fails_iff (v : Json) :
    (∃ m, ApiResponse.ofJson v = .error (.decode m)) ↔
      ¬ ∃ r, (ApiResponse.wire .any).decode v = .ok r := by
  rw [ApiResponse.ofJson, Wire.decodeAs]
  cases (ApiResponse.wire .any).decode v with
  | ok r => simp [Except.mapError]
  | error fault => simp [Except.mapError]

/-- A payload that is there is the same for the strict and the lenient way, whatever stands beside
it. A value that is no object has the same error in both, and without a payload the one fails and the
other gives its default. The envelope as a whole has that payload too, and where there is one it fails
just because of a member that is no truth value under `success`, or neither a text nor `null` under
`error` or `message`. -/
theorem openings_agree (v : Json) :
    (∀ {α : Type} (w : Wire α) (default : α) (what : String), OpensAlike w default what v) ∧
    ∀ ms : Members, v = .object ms →
      (∀ r, ApiResponse.ofJson v = .ok r → ∀ what, payload .any what v = .ok r.data) ∧
      ∀ data, ms.get? "data" = some data →
        ((∃ m, ApiResponse.ofJson v = .error (.decode m)) ↔ ∃ p ∈ ms, IsMisfit p) := by
  refine ⟨fun w default what => opensAlike w default what v, ?_⟩
  rintro ms rfl
  refine ⟨?_, ?_⟩
  · intro r h what
    rw [payload_of_data .any what (get?_of_decode (eq_ok_of_mapError_eq_ok h))]
    rfl
  · intro data hdata
    rw [ofJson_fails_iff, exists_decode_iff, hdata]
    simp

/-- The number under `error` is of no matter to the payload. -/
def numberedEnvelope : Members :=
  [("data", .array [.string "a"]), ("error", .int 5), ("message", .null)]

def bareEnvelope : Members :=
  [("data", .null), ("message", .string "try later"), ("success", .bool false)]

theorem numbered_and_bare_envelope_open :
    payload Wire.string.list "names" (.object numberedEnvelope) = .ok ["a"] ∧
      payloadOr [] Wire.string.list "names" (.object numberedEnvelope) = .ok ["a"] ∧
      (∃ m, ApiResponse.ofJson (.object numberedEnvelope) = .error (.decode m)) ∧
      ∃ r, ApiResponse.ofJson (.object bareEnvelope) = .ok r ∧
        payload .any "item" (.object bareEnvelope) = .ok r.data := by
  obtain ⟨hways, hwhole⟩ := openings_agree (.object numberedEnvelope)
  obtain ⟨hstrict, hlenient⟩ :=
    (hways Wire.string.list [] "names").there numberedEnvelope _ rfl rfl nofun
  obtain ⟨-, hfails⟩ := hwhole numberedEnvelope rfl
  obtain ⟨hpayload, -⟩ := (openings_agree (.object bareEnvelope)).2 bareEnvelope rfl
  refine ⟨hstrict, hlenient, (hfails _ rfl).mpr ?_, _, rfl, hpayload _ rfl "item"⟩
  exact ⟨("error", .int 5), by simp [numberedEnvelope], .text (Or.inl rfl) nofun nofun⟩

end Envelope

end Portal

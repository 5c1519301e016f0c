import Mathlib.Logic.ExistsUnique
import Portal.Proofs.Http.Script
import Portal.Proofs.Http.StatusTable

/-!
# Where errors come from

An operation is one call. Its error says whether no complete answer came, the server refused, or the
answer could not be read.
-/

namespace Portal

/-- How the result of an operation came about. -/
inductive Origin
  | noAnswer
  | refusal
  | answer

/-- What is true of an outcome and the result it leads to. -/
def Origin.Explains : Origin → Outcome → Except PortalError α → Prop
  | .noAnswer, o, r => ∃ e, r = .error e ∧ e.isNetwork = true ∧ e.status = none ∧ e.details = none ∧
      ((∃ reason, o = .failed reason ∧ e = .network reason) ∨
        ∃ reason, o = .timedOut reason ∧ e = .timeout reason)
  | .refusal, o, r => ∃ a e, o = .answered a ∧ 400 ≤ a.status ∧ a.answer.payload = .error e ∧
      r = .error e ∧ e.status = some a.status ∧ e.isNetwork = false ∧
      e.kind ∉ [.decode, .network, .timeout]
  | .answer, o, r => ∃ a, o = .answered a ∧ a.status < 400 ∧
      ((∃ v, r = .ok v) ∨ ∃ e, r = .error e ∧ e.kind = .decode ∧ e.status = none)

/-! ## Reading an answer -/

/-- Nothing but decoding can go wrong. -/
def DecodesOrFails (r : Except PortalError α) : Prop :=
  ∀ e, r = .error e → ∃ m, e = .decode m

namespace DecodesOrFails

theorem ok (a : α) : DecodesOrFails (.ok a) := by
  rintro e ⟨⟩

theorem decode (m : String) : DecodesOrFails (.error (.decode m) : Except PortalError α) := by
  rintro e ⟨⟩
  exact ⟨m, rfl⟩

theorem mapError (r : Except β α) (f : β → String) :
    DecodesOrFails (r.mapError fun b => .decode (f b)) := by
  cases r with
  | ok a => exact ok a
  | error b => exact decode (f b)

theorem bind {r : Except PortalError α} {f : α → Except PortalError β} (hr : DecodesOrFails r)
    (hf : ∀ a, DecodesOrFails (f a)) : DecodesOrFails (r.bind f) := by
  cases r with
  | ok a => exact hf a
  | error e =>
    obtain ⟨m, rfl⟩ := hr e rfl
    exact decode m

theorem decodeAs (w : Wire α) (what : String) (v : Json) : DecodesOrFails (w.decodeAs what v) :=
  mapError _ _

theorem data? (what : String) (v : Json) : DecodesOrFails (Envelope.data? what v) := by
  unfold Envelope.data?
  split
  · exact ok _
  · exact decode _

theorem payload (w : Wire α) (what : String) (v : Json) :
    DecodesOrFails (Envelope.payload w what v) := by
  apply bind (data? what v)
  rintro (_ | data)
  · exact decode _
  · exact decodeAs w what data

theorem payloadOr (default : α) (w : Wire α) (what : String) (v : Json) :
    DecodesOrFails (Envelope.payloadOr default w what v) := by
  apply bind (data? what v)
  intro data
  split
  · exact ok default
  · exact ok default
  · exact decodeAs w what _

theorem read (op : Operation α) (v : Json) : DecodesOrFails (op.read v) := by
  cases op with
  | listRepositories | suggestions => exact payloadOr _ _ _ v
  | getTree | search | health => exact decodeAs _ _ v
  | getRepository | createRepository | getMetadata | updateMetadata | initiateUpload
  | commitUpload | exportRepository | exportStatus => exact payload _ _ v

theorem success (a : Answer) : DecodesOrFails a.success := by
  unfold Answer.success
  split
  · exact mapError _ _
  · exact ok _

end DecodesOrFails

/-! ## The status in an error -/

theorem status_error (a : Answer) : a.error.status = some a.status := by
  unfold Answer.error
  split_ifs with h1 h2 h3 h4 h5 h6 <;> simp [PortalError.status, *]

theorem kind_error (a : Answer) : a.error.kind ∉ [.decode, .network, .timeout] := by
  unfold Answer.error
  split_ifs <;> simp [PortalError.kind]

theorem isNetwork_iff (e : PortalError) : e.isNetwork = true ↔ e.kind ∈ [.network, .timeout] := by
  cases e <;> simp [PortalError.isNetwork, PortalError.kind]

/-! ## One operation -/

theorem explains_refusal (a : HttpAnswer) (op : Operation α) (h : 400 ≤ a.status) :
    Origin.refusal.Explains (.answered a) ((Outcome.answered a).payload.bind op.read) := by
  have hp : a.answer.payload = .error a.answer.error := StatusTable.payload_of_failure a.answer h
  have hk := kind_error a.answer
  refine ⟨a, a.answer.error, rfl, h, hp, ?_, status_error a.answer, ?_, hk⟩
  · rw [Outcome.payload, hp]
    rfl
  · rw [← Bool.not_eq_true, isNetwork_iff]
    intro hn
    exact hk (List.mem_cons_of_mem _ hn)

theorem explains_answer (a : HttpAnswer) (op : Operation α) (h : a.status < 400) :
    Origin.answer.Explains (.answered a) ((Outcome.answered a).payload.bind op.read) := by
  have hp : (Outcome.answered a).payload = a.answer.success := if_pos h
  have hr : DecodesOrFails (a.answer.success.bind op.read) :=
    (DecodesOrFails.success a.answer).bind (DecodesOrFails.read op)
  refine ⟨a, rfl, h, ?_⟩
  rw [hp]
  cases hres : a.answer.success.bind op.read with
  | ok v => exact Or.inl ⟨v, rfl⟩
  | error e =>
    obtain ⟨m, rfl⟩ := hr e hres
    exact Or.inr ⟨_, rfl, rfl, rfl⟩

theorem exists_origin (s : Script) (op : Operation α) (k : Nat) :
    ∃ origin : Origin, origin.Explains (s.outcome k) (s.result op k) := by
  unfold Script.result
  cases s.outcome k with
  | failed reason =>
    exact ⟨.noAnswer, .network reason, rfl, rfl, rfl, rfl, Or.inl ⟨reason, rfl, rfl⟩⟩
  | timedOut reason =>
    exact ⟨.noAnswer, .timeout reason, rfl, rfl, rfl, rfl, Or.inr ⟨reason, rfl, rfl⟩⟩
  | answered a =>
    rcases Nat.lt_or_ge a.status 400 with h | h
    · exact ⟨.answer, explains_answer a op h⟩
    · exact ⟨.refusal, explains_refusal a op h⟩

/-- The outcome alone tells which origin it is. -/
def Outcome.origin : Outcome → Origin
  | .answered a => if a.status < 400 then .answer else .refusal
  | .failed _ | .timedOut _ => .noAnswer

theorem origin_of_explains {origin : Origin} {o : Outcome} {r : Except PortalError α}
    (h : origin.Explains o r) : origin = o.origin := by
  cases origin with
  | noAnswer => obtain ⟨e, -, -, -, -, ⟨reason, rfl, -⟩ | ⟨reason, rfl, -⟩⟩ := h <;> rfl
  | refusal =>
    obtain ⟨a, e, rfl, h4, -⟩ := h
    exact (if_neg (by omega)).symm
  | answer =>
    obtain ⟨a, rfl, h4, -⟩ := h
    exact (if_pos h4).symm

/-- Every operation makes one call, however it ends, and its result has exactly one origin. -/
theorem operation_calls_once_with_one_origin (c : Client) (op : Operation α) (s : Script)
    (tr : Trail) :
    ∃ r, (c.run s.transport op).run tr = (r, tr.call (c.httpRequest op.request)) ∧
      ∃! origin : Origin, origin.Explains (s.outcome (tr.calls.length + 1)) r := by
  obtain ⟨origin, h⟩ := exists_origin s op (tr.calls.length + 1)
  refine ⟨_, s.run_operation tr c op, origin, h, ?_⟩
  intro other h'
  rw [origin_of_explains h', origin_of_explains h]

end Portal

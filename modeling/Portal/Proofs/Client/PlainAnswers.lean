import Portal.Proofs.Http.MediaType
import Portal.Proofs.Wait.FirstDecisive
import Portal.Proofs.Wire.Records

/-!
# Answers that are not JSON

A text that comes with a good status is handed on as it is, as the data of an object. No operation
takes it for what it asked for: each one says that it cannot read it.
-/

namespace Portal

/-- A success whose content type is missing or not that of JSON. -/
structure HttpAnswer.IsPlain (a : HttpAnswer) : Prop where
  status : a.status < 400
  notJson : ∀ t, a.header? "content-type" = some t → isJsonContentType t = false

/-- The payload that stands for a text. -/
def wrapped (text : String) : Json :=
  .object [("data", .string text)]

theorem HttpAnswer.IsPlain.payload {a : HttpAnswer} (h : a.IsPlain) :
    a.answer.payload = .ok (wrapped a.text) := by
  have hjson : a.answer.isJson = false := by
    change (a.header? "content-type").any isJsonContentType = false
    cases hheader : a.header? "content-type" with
    | none => rfl
    | some t => exact h.notJson t hheader
  exact Answer.payload_of_plain h.status hjson

/-! ## Reading a text -/

/-- The answer could not be read, and nothing takes its place. -/
def IsUnreadable (r : Except PortalError α) : Prop :=
  ∃ m, r = .error (.decode m)

variable {w : Wire α}

theorem isUnreadable_decodeAs {v : Json} (h : ∃ fault, w.decode v = .error fault) (what : String) :
    IsUnreadable (w.decodeAs what v) := by
  obtain ⟨fault, hfault⟩ := h
  refine ⟨s!"{what}: {fault.message}", ?_⟩
  rw [Wire.decodeAs, hfault]
  rfl

theorem isUnreadable_payload (h : w.RefusesText) (what text : String) :
    IsUnreadable (Envelope.payload w what (wrapped text)) :=
  isUnreadable_decodeAs (h text) what

theorem isUnreadable_payloadOr (default : α) (h : w.RefusesText) (what text : String) :
    IsUnreadable (Envelope.payloadOr default w what (wrapped text)) :=
  isUnreadable_decodeAs (h text) what

theorem isUnreadable_whole (key : String) {fields : Fields ρ κ} (hkey : key ∈ fields.requiredNames)
    (hdata : key ≠ "data") (name : String) (make : κ) (what text : String) :
    IsUnreadable ((Wire.record name make fields).decodeAs what (wrapped text)) := by
  have hmissing : Members.get? [("data", Json.string text)] key = none :=
    Members.get?_eq_none _ _ (by simpa using hdata)
  exact isUnreadable_decodeAs (Wire.record_of_missing hkey hmissing name make) what

theorem isUnreadable_read (op : Operation α) (text : String) :
    IsUnreadable (op.read (wrapped text)) := by
  cases op with
  | listRepositories | suggestions => exact isUnreadable_payloadOr _ (Wire.list_refusesText _) _ _
  | getMetadata | updateMetadata => exact isUnreadable_payload Wire.members_refusesText _ _
  | getRepository | createRepository | initiateUpload | commitUpload | exportRepository
  | exportStatus => exact isUnreadable_payload (Wire.record_refusesText _ _ _) _ _
  | getTree | search => exact isUnreadable_whole "success" (by simp) (by decide) _ _ _ _
  | health => exact isUnreadable_whole "status" (by simp) (by decide) _ _ _ _

/-! ## Calls -/

namespace Script

variable {s : Script} {a : HttpAnswer} {k : Nat}

theorem isUnreadable_result (h : a.IsPlain) (hk : s.outcome k = .answered a) (op : Operation α) :
    IsUnreadable (s.result op k) := by
  have hpayload : (s.outcome k).payload = .ok (wrapped a.text) := by
    rw [hk]
    exact h.payload
  rw [result, hpayload]
  exact isUnreadable_read op a.text

theorem gives_unreadable (c : Client) (w : ExportWait) (id : String) (h : a.IsPlain)
    (hfirst : s.outcome 1 = .answered a) {polls : Nat} (hpolls : 0 < polls) :
    ∃ r, IsUnreadable r ∧ ExportWait.Gives c w id s polls (some r) 1 := by
  -- The first poll decides, since it is an error.
  obtain ⟨m, hm⟩ := isUnreadable_result h hfirst (.exportStatus id)
  have hdecisive : w.Decisive id s 1 := by
    rw [ExportWait.Decisive, hm]
    trivial
  have hverdict : ExportWait.verdict id s 1 = .error (.decode m) := by
    rw [ExportWait.verdict, hm]
  have hleast : IsLeast {k | 0 < k ∧ w.Decisive id s k} 1 :=
    ⟨⟨Nat.one_pos, hdecisive⟩, fun k hk => hk.1⟩
  refine ⟨.error (.decode m), ⟨m, rfl⟩, ?_⟩
  rw [← hverdict]
  exact ExportWait.gives_verdict c w id s hleast hpolls

end Script

/-- A success that is not JSON gives the object with its text as data, and no operation and no wait
makes anything of it: each one fails, after that one call, because the answer cannot be read. -/
theorem plain_answer_is_data_for_nobody (c : Client) (s : Script) (a : HttpAnswer)
    (h : a.IsPlain) :
    (∀ (r : ApiRequest) (tr : Trail), s.outcome (tr.calls.length + 1) = .answered a →
      (c.execute s.transport r).run tr =
        (.ok (.object [("data", .string a.text)]), tr.call (c.httpRequest r))) ∧
    (∀ {α : Type} (op : Operation α) (tr : Trail),
      s.outcome (tr.calls.length + 1) = .answered a →
      ∃ r, IsUnreadable r ∧
        (c.run s.transport op).run tr = (r, tr.call (c.httpRequest op.request))) ∧
    ∀ (w : ExportWait) (id : String) (polls : Nat), s.outcome 1 = .answered a → 0 < polls →
      ∃ r, IsUnreadable r ∧ ExportWait.Gives c w id s polls (some r) 1 := by
  refine ⟨?_, ?_, ?_⟩
  · intro r tr hnext
    rw [Script.run_execute, hnext]
    exact congrArg (·, tr.call (c.httpRequest r)) h.payload
  · intro α op tr hnext
    exact ⟨_, Script.isUnreadable_result h hnext op, s.run_operation tr c op⟩
  · intro w id polls hfirst hpolls
    exact Script.gives_unreadable c w id h hfirst hpolls

/-- Whatever bytes the form came in. -/
def loginPage : HttpAnswer :=
  ⟨200, [("content-type", "text/html; charset=iso-8859-1")], "<form>café"⟩

/-- Every call ends at the login page. -/
def loginScript : Script :=
  ⟨fun _ => .answered loginPage, fun _ => .ofSeconds 0⟩

def visitor : Client :=
  ⟨"http://h", .ofSeconds 5, true, .empty⟩

theorem loginPage_isPlain : loginPage.IsPlain := by
  have hheader : loginPage.header? "content-type" = some "text/html; charset=iso-8859-1" := by
    decide +kernel
  refine ⟨by decide, ?_⟩
  intro t ht
  rw [hheader, Option.some.injEq] at ht
  rw [← ht]
  decide +kernel

theorem login_page_is_data_for_nobody :
    loginPage.IsPlain ∧
      ((visitor.execute loginScript.transport (.get "/v1/repos")).run .empty).1 =
        .ok (.object [("data", .string "<form>café")]) ∧
      IsUnreadable ((visitor.run loginScript.transport .listRepositories).run .empty).1 ∧
      ∃ r, IsUnreadable r ∧ ExportWait.Gives visitor .default "e-1" loginScript 7 (some r) 1 := by
  obtain ⟨hexecute, hrun, hwait⟩ :=
    plain_answer_is_data_for_nobody visitor loginScript loginPage loginPage_isPlain
  refine ⟨loginPage_isPlain, ?_, ?_, hwait .default "e-1" 7 rfl (by decide)⟩
  · rw [hexecute (.get "/v1/repos") .empty rfl]
    rfl
  · obtain ⟨r, hr, hlist⟩ := hrun .listRepositories .empty rfl
    rw [hlist]
    exact hr

end Portal

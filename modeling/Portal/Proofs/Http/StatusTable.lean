import Mathlib.Tactic.SplitIfs
import Portal.Http.Answer

/-!
# The table of statuses

Each status of 400 or more has a documented kind of error, and the kind says whether the call may be
tried again. The answers keep to the table below 600. Past that they know no server errors.
-/

namespace Portal

inductive ErrorKind
  | authentication
  | authorization
  | notFound
  | validation
  | rateLimit
  | server
  | api
  | network
  | timeout
  | decode
  deriving DecidableEq

def PortalError.kind : PortalError → ErrorKind
  | authentication .. => .authentication
  | authorization .. => .authorization
  | notFound .. => .notFound
  | validation .. => .validation
  | rateLimit .. => .rateLimit
  | server .. => .server
  | api .. => .api
  | network _ => .network
  | timeout _ => .timeout
  | decode _ => .decode

namespace StatusTable

/-- The statuses that are documented for a kind. -/
def Row : ErrorKind → Nat → Prop
  | .authentication, c => c = 401
  | .authorization, c => c = 403
  | .notFound, c => c = 404
  | .validation, c => c = 400 ∨ c = 422
  | .rateLimit, c => c = 429
  | .server, c => 500 ≤ c
  | .api, c => 400 ≤ c ∧ c < 500 ∧ c ∉ [400, 401, 403, 404, 422, 429]
  | .network, _ | .timeout, _ | .decode, _ => False

/-- An error that is documented for the status `c`, and is worth another try just when it should
be. -/
def Follows (e : PortalError) (c : Nat) : Prop :=
  (∀ k, e.kind = k ↔ Row k c) ∧ (e.isRetryable = true ↔ c = 429 ∨ 500 ≤ c)

/-! ## One answer -/

theorem payload_of_failure (a : Answer) (h : 400 ≤ a.status) : a.payload = .error a.error := by
  rw [Answer.payload, if_neg (by omega)]

theorem isRetryable_iff (e : PortalError) :
    e.isRetryable = true ↔ e.kind ∈ [.network, .timeout, .rateLimit, .server] := by
  cases e <;> simp [PortalError.isRetryable, PortalError.kind]

theorem row_unique {k l : ErrorKind} {c : Nat} (hk : Row k c) (hl : Row l c) : k = l := by
  -- No two kinds share a status, so one that fits is the only one.
  cases k <;> cases l <;> simp only [Row, List.mem_cons] at hk hl ⊢ <;> omega

theorem row_error_kind (a : Answer) (h : 400 ≤ a.status) (h6 : a.status < 600) :
    Row a.error.kind a.status := by
  unfold Answer.error
  split_ifs with h1 h2 h3 h4 h5 h7 <;> simp only [PortalError.kind, Row]
  · exact h1
  · exact h2
  · exact h3
  · exact h4
  · exact h5
  · exact h7.1
  · -- None of the statuses with a kind of their own.
    simp only [List.mem_cons, List.not_mem_nil, or_false]
    omega

theorem follows_of_row {e : PortalError} {c : Nat} (h : Row e.kind c) : Follows e c := by
  refine ⟨fun k => ⟨?_, row_unique h⟩, ?_⟩
  · rintro rfl
    exact h
  · rw [isRetryable_iff]
    generalize e.kind = k at h ⊢
    cases k <;> simp [Row] at h ⊢ <;> omega

theorem error_of_600 (a : Answer) (h : 600 ≤ a.status) :
    a.error = .api a.status a.errorMessage a.details := by
  unfold Answer.error
  split_ifs <;> first | omega | rfl

/-! ## All answers -/

/-- Every answer with a status of 400 or more is an error, and it is the documented one exactly
below 600. Past that it is an error of no special kind, which says not to try again. -/
theorem payload_follows_table_iff (a : Answer) (h : 400 ≤ a.status) :
    ∃ e, a.payload = .error e ∧ (Follows e a.status ↔ a.status < 600) ∧
      (600 ≤ a.status → e.kind = .api ∧ e.isRetryable = false) := by
  refine ⟨a.error, payload_of_failure a h, ⟨?_, ?_⟩, ?_⟩
  · intro hf
    rcases Nat.lt_or_ge a.status 600 with hlt | h6
    · exact hlt
    · have hkind : a.error.kind = .api := by rw [error_of_600 a h6]; rfl
      have hrow : Row .api a.status := (hf.1 .api).mp hkind
      exact absurd hrow.2.1 (by omega)
  · intro hlt
    exact follows_of_row (row_error_kind a h hlt)
  · intro h6
    rw [error_of_600 a h6]
    exact ⟨rfl, rfl⟩

theorem payload_follows_table_at_599 :
    400 ≤ 599 ∧ ∃ e, Answer.payload ⟨599, some "text/html", some "120", "<html>"⟩ = .error e ∧
      (Follows e 599 ↔ 599 < 600) ∧ (600 ≤ 599 → e.kind = .api ∧ e.isRetryable = false) :=
  ⟨by decide, payload_follows_table_iff ⟨599, some "text/html", some "120", "<html>"⟩ (by decide)⟩

theorem payload_off_table_at_600 :
    ∃ e, Answer.payload ⟨600, none, none, ""⟩ = .error e ∧ ¬ Follows e 600 := by
  refine ⟨.api 600 "HTTP 600" none, rfl, ?_⟩
  intro h
  have hserver := (h.1 .server).mpr (by simp [Row])
  simp [PortalError.kind] at hserver

end StatusTable

end Portal

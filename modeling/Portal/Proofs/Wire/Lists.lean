import Mathlib.Data.List.Forall2
import Portal.Proofs.Success
import Portal.Wire.Basic

/-!
# Lists on the wire

A list is read as a whole or not at all. Each value comes from the item in its place, and where one
cannot be read, the first of them is reported.
-/

namespace Portal

variable {w : Wire α} {items : List Json} {fault : Wire.Fault}

/-! ## Items -/

/-- All items before one can be read, and that one has the fault. -/
def Wire.FirstFault (w : Wire α) (items : List Json) (fault : Wire.Fault) : Prop :=
  ∃ before v after, items = before ++ v :: after ∧ (∀ u ∈ before, ∃ a, w.decode u = .ok a) ∧
    w.decode v = .error fault

/-- What comes of reading the items with `w`: what `whole` makes of all their values, in order, or
what `report` makes of the first fault. -/
structure ReadsAllOrNothing (w : Wire α) (items : List Json) (whole : List α → β)
    (report : Wire.Fault → ε) (result : Except ε β) : Prop where
  isOk_iff : (∃ b, result = .ok b) ↔ ∀ v ∈ items, ∃ a, w.decode v = .ok a
  in_place : ∀ b, result = .ok b →
    ∃ as, b = whole as ∧ List.Forall₂ (fun v a => w.decode v = .ok a) items as
  first_fault : ∀ e, result = .error e → ∃ fault, e = report fault ∧ w.FirstFault items fault

namespace Wire

theorem forall₂_of_decodeItems {as : List α} (h : decodeItems w items = .ok as) :
    List.Forall₂ (fun v a => w.decode v = .ok a) items as := by
  induction items generalizing as with
  | nil =>
    cases h
    exact .nil
  | cons v items ih =>
    obtain ⟨a, hv, hrest⟩ := exists_of_bind_eq_ok h
    obtain ⟨as, hitems, hcons⟩ := exists_of_bind_eq_ok hrest
    cases hcons
    exact .cons hv (ih hitems)

theorem firstFault_of_decodeItems (h : decodeItems w items = .error fault) :
    w.FirstFault items fault := by
  induction items with
  | nil => cases h
  | cons v items ih =>
    rcases error_of_bind_eq_error h with hv | ⟨a, hv, hrest⟩
    · exact ⟨[], v, items, rfl, nofun, hv⟩
    · rcases error_of_bind_eq_error hrest with hitems | ⟨as, hitems, hcons⟩
      · obtain ⟨before, u, after, rfl, hbefore, hu⟩ := ih hitems
        exact ⟨v :: before, u, after, rfl, List.forall_mem_cons.mpr ⟨⟨a, hv⟩, hbefore⟩, hu⟩
      · cases hcons

theorem FirstFault.exists_mem (h : w.FirstFault items fault) :
    ∃ v ∈ items, w.decode v = .error fault := by
  obtain ⟨before, v, after, rfl, -, hv⟩ := h
  exact ⟨v, by simp, hv⟩

theorem exists_decode_of_forall₂ {as : List α}
    (h : List.Forall₂ (fun v a => w.decode v = .ok a) items as) :
    ∀ v ∈ items, ∃ a, w.decode v = .ok a := by
  induction h with
  | nil => nofun
  | @cons v a _ _ hv _ ih => exact List.forall_mem_cons.mpr ⟨⟨a, hv⟩, ih⟩

theorem exists_decodeItems_iff :
    (∃ as, decodeItems w items = .ok as) ↔ ∀ v ∈ items, ∃ a, w.decode v = .ok a := by
  constructor
  · rintro ⟨as, h⟩
    exact exists_decode_of_forall₂ (forall₂_of_decodeItems h)
  · intro h
    cases hitems : decodeItems w items with
    | ok as => exact ⟨as, rfl⟩
    | error fault =>
      obtain ⟨v, hv, hfault⟩ := (firstFault_of_decodeItems hitems).exists_mem
      obtain ⟨a, ha⟩ := h v hv
      rw [ha] at hfault
      cases hfault

theorem readsAllOrNothing_decodeItems (w : Wire α) (items : List Json) :
    ReadsAllOrNothing w items id id (decodeItems w items) where
  isOk_iff := exists_decodeItems_iff
  in_place as h := ⟨as, rfl, forall₂_of_decodeItems h⟩
  first_fault fault h := ⟨fault, rfl, firstFault_of_decodeItems h⟩

end Wire

/-! ## What is made of a list -/

namespace ReadsAllOrNothing

variable {whole : List α → β} {report : Wire.Fault → ε} {result : Except ε β}

theorem map (h : ReadsAllOrNothing w items whole report result) (f : β → γ) :
    ReadsAllOrNothing w items (f ∘ whole) report (result.map f) where
  isOk_iff := by
    rw [← h.isOk_iff]
    cases result <;> simp [Except.map]
  in_place c hc := by
    obtain ⟨b, hb, rfl⟩ := exists_of_map_eq_ok hc
    obtain ⟨as, rfl, has⟩ := h.in_place b hb
    exact ⟨as, rfl, has⟩
  first_fault e he := h.first_fault e (eq_error_of_map_eq_error he)

theorem mapError (h : ReadsAllOrNothing w items whole report result) (f : ε → δ) :
    ReadsAllOrNothing w items whole (f ∘ report) (result.mapError f) where
  isOk_iff := by
    rw [← h.isOk_iff]
    cases result <;> simp [Except.mapError]
  in_place b hb := h.in_place b (eq_ok_of_mapError_eq_ok hb)
  first_fault d hd := by
    obtain ⟨e, he, rfl⟩ := exists_of_mapError_eq_error hd
    obtain ⟨fault, rfl, hfault⟩ := h.first_fault e he
    exact ⟨fault, rfl, hfault⟩

end ReadsAllOrNothing

end Portal

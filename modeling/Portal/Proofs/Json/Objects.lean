import Portal.Json.Reader
import Portal.Proofs.Json.Members
import Portal.Proofs.Success

/-!
# Objects in a text

An object that is read from a text has its members in the order of their keys, each key once.
-/

namespace Portal.Json

/-- Neither an object nor anything else that is made of parts. -/
def IsScalar : Json → Prop
  | .array _ | .object _ => False
  | _ => True

/-! ## Numbers -/

variable {negative down : Bool} {n k : Nat} {e : Int} {s r : List Char} {v : Json}

theorem isScalar_scaledFloat (h : scaledFloat negative n e s = .ok (v, r)) : v.IsScalar := by
  unfold scaledFloat at h
  split at h
  · cases h
    trivial
  · cases h

theorem isScalar_exponentDigits (h : exponentDigits negative n e down s = .ok (v, r)) :
    v.IsScalar := by
  simp only [exponentDigits] at h
  split at h; · cases h
  split at h; · cases h
  split at h
  · split at h
    · cases h
    · cases h
      trivial
  · exact isScalar_scaledFloat h

theorem isScalar_exponentPart (h : exponentPart negative n e s = .ok (v, r)) : v.IsScalar := by
  unfold exponentPart at h
  split at h <;> exact isScalar_exponentDigits h

theorem isScalar_afterDigits (h : afterDigits negative n e s = .ok (v, r)) : v.IsScalar := by
  unfold afterDigits at h
  split at h
  · exact isScalar_exponentPart h
  · exact isScalar_exponentPart h
  · exact isScalar_scaledFloat h

theorem isScalar_fractionPart (h : fractionPart negative n e s = .ok (v, r)) : v.IsScalar := by
  simp only [fractionPart] at h
  split at h; · cases h
  split at h; · cases h
  exact isScalar_afterDigits h

theorem isScalar_wholeNumber (negative : Bool) (n : Nat) : (wholeNumber negative n).IsScalar := by
  unfold wholeNumber
  split
  · trivial
  · split <;> trivial

theorem isScalar_afterWhole (h : afterWhole negative n k s = .ok (v, r)) : v.IsScalar := by
  unfold afterWhole at h
  split at h
  · exact isScalar_fractionPart h
  · split at h
    · exact isScalar_afterDigits h
    · cases h
      exact isScalar_wholeNumber negative n

theorem isScalar_unsignedNumber (h : unsignedNumber negative s = .ok (v, r)) : v.IsScalar := by
  unfold unsignedNumber at h
  split at h; · cases h
  split at h
  · split at h
    · cases h
    · exact isScalar_afterWhole h
  · split at h
    · cases h
    · exact isScalar_afterWhole h

theorem isScalar_number (h : number s = .ok (v, r)) : v.IsScalar := by
  unfold number at h
  split at h <;> exact isScalar_unsignedNumber h

/-! ## Values -/

theorem value_of_word {letters : List Char} {p : { r : Json × List Char // r.2.length ≤ s.length }}
    (h : word letters v s = .ok p) : p.1.1 = v := by
  induction letters generalizing s with
  | nil =>
    rw [word] at h
    cases h
    rfl
  | cons l letters ih =>
    cases s with
    | nil => cases h
    | cons c s =>
      rw [word] at h
      split at h
      · obtain ⟨p', hword, rfl⟩ := exists_of_map_eq_ok h
        have hv := ih hword
        exact hv
      · cases h

theorem isScalar_of_word {letters t : List Char} {p : Parsed Json t}
    {f : { r : Json × List Char // r.2.length ≤ s.length } → Parsed Json t} (hv : v.IsScalar)
    (hf : ∀ r, (f r).value = r.1.1) (h : (word letters v s).map f = .ok p) :
    p.value.IsScalar := by
  obtain ⟨r, hword, rfl⟩ := exists_of_map_eq_ok h
  rw [hf, value_of_word hword]
  exact hv

theorem isScalar_scalar {c : Char} {p : Parsed Json (c :: s)} (h : scalar c s = .ok p) :
    p.value.IsScalar := by
  unfold scalar at h
  dsimp only at h
  split at h
  · exact isScalar_of_word (v := .null) trivial (fun _ => rfl) h
  split at h
  · exact isScalar_of_word (v := .bool true) trivial (fun _ => rfl) h
  split at h
  · exact isScalar_of_word (v := .bool false) trivial (fun _ => rfl) h
  split at h
  · obtain ⟨q, -, rfl⟩ := exists_of_map_eq_ok h
    trivial
  split at h
  · split at h
    · next hnumber =>
      cases h
      exact isScalar_number hnumber
    · cases h
  · cases h

theorem isOrdered_of_value {depth : Nat} {p : Parsed Json s} {ms : Members}
    (h : value depth s = .ok p) (hms : p.value = .object ms) : ms.IsOrdered := by
  unfold value at h
  split at h
  · cases h
  · next c rest hskip =>
    dsimp only at h
    split at h
    · cases depth with
      | zero => cases h
      | succ depth =>
        dsimp only at h
        split at h
        · -- An array
          obtain ⟨q, -, rfl⟩ := exists_of_map_eq_ok h
          cases hms
        · obtain ⟨q, -, rfl⟩ := exists_of_map_eq_ok h
          cases hms
          exact Members.isOrdered_ofList q.value
    · obtain ⟨q, hq, rfl⟩ := exists_of_map_eq_ok h
      have hscalar := isScalar_scalar hq
      change q.value = .object ms at hms
      rw [hms] at hscalar
      exact hscalar.elim

theorem isOrdered_of_parse {text : String} {ms : Members} (h : parse text = .ok (.object ms)) :
    ms.IsOrdered := by
  unfold parse at h
  cases hread : read text.toList with
  | error fault => rw [hread] at h; cases h
  | ok v =>
    rw [hread] at h
    cases h
    unfold read at hread
    cases hvalue : value 127 text.toList with
    | error fault => rw [hvalue] at hread; cases hread
    | ok p =>
      rw [hvalue] at hread
      dsimp only [bind, Except.bind] at hread
      split at hread
      · exact isOrdered_of_value hvalue (Except.ok.inj hread)
      · cases hread

end Portal.Json

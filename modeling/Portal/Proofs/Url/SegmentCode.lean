import Portal.Proofs.Text.Pieces
import Portal.Proofs.Url.Percent
import Portal.Url.Address
import Portal.Url.Encoding

/-!
# Segments as a code

An argument is written with characters that mean nothing else in an address, one character after the
other, and it can be read back. Only a segment without any escape is written as itself.
-/

namespace Portal.Url

/-!
## Segments in a path

A written segment holds nothing that the reader of an address would cut, clean or encode again.
-/

open Percent (upperHexDigit)

/-- A character that the reader of a path takes for what it is. -/
def IsPlain (c : Char) : Prop :=
  0x20 < c.toNat ∧ c.toNat < 0x80 ∧ c ≠ '\\' ∧ Address.isEscapedInPath c = false

instance (c : Char) : Decidable (IsPlain c) := inferInstanceAs (Decidable (_ ∧ _ ∧ _ ∧ _))

/-- One or two dots, which lead through a path instead of naming anything. -/
def IsDots (text : List Char) : Prop :=
  text = ['.'] ∨ text = ['.', '.']

instance (text : List Char) : Decidable (IsDots text) := inferInstanceAs (Decidable (_ ∨ _))

theorem ascii_all {P : Char → Prop} (h : ∀ n < 0x80, P (Char.ofNat n)) :
    ∀ {c : Char}, c.toNat < 0x80 → P c := by
  intro c hc
  have := h c.toNat hc
  rwa [Char.ofNat_toNat] at this

/-! ## Written segments -/

theorem toList_encodeSegment (s : String) : (encodeSegment s).toList = segmentChars s.toList :=
  String.toList_ofList

theorem decode_segmentChars (s : List Char) : Percent.decode (segmentChars s) = Utf8.encode s :=
  Percent.decode_encode rfl s

theorem segmentChars_injective {s t : List Char} (h : segmentChars s = segmentChars t) : s = t := by
  apply Utf8.encode_injective
  rw [← decode_segmentChars, ← decode_segmentChars, h]

theorem isPlain_upperHexDigit : ∀ n < 16, IsPlain (upperHexDigit n) ∧ upperHexDigit n ≠ '/' := by
  decide

theorem isPlain_of_kept {c : Char} (h : c.toNat < 0x80) (hc : isEscapedInSegment c = false) :
    IsPlain c ∧ c ≠ '/' := by
  revert c
  apply ascii_all
  decide

theorem isPlain_of_mem_segmentChars {s : List Char} {c : Char} (h : c ∈ segmentChars s) :
    IsPlain c ∧ c ≠ '/' := by
  rcases Percent.mem_encode h with ⟨-, hlt, hkept⟩ | rfl | ⟨n, hn, rfl⟩
  · exact isPlain_of_kept hlt hkept
  · decide
  · exact isPlain_upperHexDigit n hn

theorem slash_not_mem_segmentChars (s : List Char) : '/' ∉ segmentChars s :=
  fun h => (isPlain_of_mem_segmentChars h).2 rfl

theorem segmentChars_ne_nil {s : List Char} (h : s ≠ []) : segmentChars s ≠ [] := by
  intro hs
  exact h (segmentChars_injective hs)

/-! ## Segments as a code -/

/-- Printable ASCII, and nothing that would end a segment or need an escape in it. The percent sign
is safe: it starts an escape. -/
def IsSafe (c : Char) : Prop :=
  0x20 < c.toNat ∧ c.toNat < 0x7F ∧
    c ∉ ['"', '#', '/', '<', '>', '?', '\\', '^', '`', '\x7b', '|', '\x7d']

instance (c : Char) : Decidable (IsSafe c) := inferInstanceAs (Decidable (_ ∧ _ ∧ _))

/-- What an argument may rely on when it is written as a segment. -/
structure IsSafeCode (write : String → String) : Prop where
  safe : ∀ s, ∀ c ∈ (write s).toList, IsSafe c
  escapes : ∀ s, Percent.EscapesWhole (write s).toList
  decodes : ∀ s, Percent.decode (write s).toList = s.toUTF8.data.toList
  append : ∀ s t, write (s ++ t) = write s ++ write t
  injective : ∀ s t, write s = write t ↔ s = t
  again : ∀ s, write (write s) ≠ write s ↔ '%' ∈ (write s).toList

theorem toUTF8_eq (s : String) : s.toUTF8.data.toList = Utf8.encode s.toList := by
  rw [String.toUTF8, ← String.utf8Encode_toList, List.utf8Encode]
  simp [Utf8.encode]

theorem encodeSegment_append (s t : String) :
    encodeSegment (s ++ t) = encodeSegment s ++ encodeSegment t := by
  rw [encodeSegment, String.toList_append, segmentChars, Percent.encode_append, String.ofList_append]
  rfl

theorem encodeSegment_inj (s t : String) : encodeSegment s = encodeSegment t ↔ s = t := by
  refine ⟨?_, congrArg encodeSegment⟩
  intro h
  exact String.toList_inj.mp (segmentChars_injective (String.ofList_injective h))

/-! ## Characters of a segment -/

theorem isSafe_of_kept {c : Char} (hlt : c.toNat < 0x80) (hc : isEscapedInSegment c = false) :
    IsSafe c := by
  revert c
  apply ascii_all
  decide

theorem isSafe_upperHexDigit : ∀ n < 16, IsSafe (Percent.upperHexDigit n) := by decide

theorem isSafe_of_mem_segmentChars {s : List Char} {c : Char} (h : c ∈ segmentChars s) :
    IsSafe c := by
  rcases Percent.mem_encode h with ⟨-, hlt, hkept⟩ | rfl | ⟨n, hn, rfl⟩
  · exact isSafe_of_kept hlt hkept
  · decide
  · exact isSafe_upperHexDigit n hn

theorem isKept_iff_of_isSafe {c : Char} (h : IsSafe c) :
    (c.toNat < 0x80 ∧ isEscapedInSegment c = false) ↔ c ≠ '%' := by
  -- Of the safe characters only the percent sign is written as something else.
  have hdel := h.2.1
  have hlt : c.toNat < 0x80 := by omega
  rw [and_iff_right hlt]
  exact ascii_all (P := fun c => IsSafe c → (isEscapedInSegment c = false ↔ c ≠ '%')) (by decide)
    hlt h

theorem encodeSegment_again_iff (s : String) :
    encodeSegment (encodeSegment s) ≠ encodeSegment s ↔ '%' ∈ (encodeSegment s).toList := by
  rw [not_iff_comm, ← String.toList_inj, toList_encodeSegment (encodeSegment s), segmentChars,
    Percent.encode_eq_self_iff, toList_encodeSegment]
  constructor
  · intro hnone c hc
    rw [isKept_iff_of_isSafe (isSafe_of_mem_segmentChars hc)]
    rintro rfl
    exact hnone hc
  · intro hkept hpercent
    exact absurd (hkept '%' hpercent).2 (by decide)

/-- Segments are a safe code, whatever the text: each character of it is written for itself, with
whole escapes, and nothing is lost. -/
theorem encodeSegment_isSafeCode : IsSafeCode encodeSegment where
  safe s c hc := by
    rw [toList_encodeSegment] at hc
    exact isSafe_of_mem_segmentChars hc
  escapes s := by
    rw [toList_encodeSegment]
    exact Percent.escapesWhole_encode rfl s.toList
  decodes s := by rw [toList_encodeSegment, decode_segmentChars, toUTF8_eq]
  append := encodeSegment_append
  injective := encodeSegment_inj
  again := encodeSegment_again_iff

example : encodeSegment "50% off/é" = "50%25%20off%2F%C3%A9" := by decide +kernel

end Portal.Url

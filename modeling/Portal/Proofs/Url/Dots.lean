import Mathlib.Data.List.Basic
import Portal.Proofs.Url.SegmentCode

/-!
# Dots in a path

One or two dots are no name of a segment: the reader of a path follows them. All other segments stay
where they are.
-/

namespace Portal.Address

open Url (IsDots segmentChars)

/-- Taken for a way through the path. -/
def IsDotted (segment : List Char) : Prop :=
  IsDots (dots segment)

instance (segment : List Char) : Decidable (IsDotted segment) :=
  inferInstanceAs (Decidable (IsDots _))

/-! ## Encoded dots -/

theorem dots_cons_of_ne {c : Char} (h : c ≠ '%') (s : List Char) : dots (c :: s) = c :: dots s := by
  rw [dots]
  · intro s' hc
    exact absurd hc h
  · intro s' hc
    exact absurd hc h

theorem upperHexDigits_ne_dot : ∀ m < 16, ∀ n < 16, 16 * m + n ≠ 0x2E →
    ¬ (Percent.upperHexDigit m = '2' ∧
      (Percent.upperHexDigit n = 'e' ∨ Percent.upperHexDigit n = 'E')) := by decide

theorem dots_byte_append {b : UInt8} (h : b.toNat ≠ 0x2E) (s : List Char) :
    dots (Percent.byte b ++ s) = Percent.byte b ++ dots s := by
  have hb : b.toNat < 256 := b.toNat_lt
  have hhigh : b.toNat / 16 < 16 := by omega
  have hlow : b.toNat % 16 < 16 := by omega
  have hne := upperHexDigits_ne_dot _ hhigh _ hlow (by omega)
  simp only [Percent.byte, List.cons_append, List.nil_append]
  rw [dots]
  · rw [dots_cons_of_ne (Percent.upperHexDigit_ne_percent _ hhigh),
      dots_cons_of_ne (Percent.upperHexDigit_ne_percent _ hlow)]
  · intro s' _ hs
    simp only [List.cons.injEq] at hs
    exact hne ⟨hs.1, Or.inl hs.2.1⟩
  · intro s' _ hs
    simp only [List.cons.injEq] at hs
    exact hne ⟨hs.1, Or.inr hs.2.1⟩

theorem dots_bytes_append {bs : List UInt8} (h : ∀ b ∈ bs, b.toNat ≠ 0x2E) (s : List Char) :
    dots (bs.flatMap Percent.byte ++ s) = bs.flatMap Percent.byte ++ dots s := by
  induction bs with
  | nil => rfl
  | cons b bs ih =>
    rw [List.flatMap_cons, List.append_assoc, dots_byte_append (h b List.mem_cons_self),
      ih fun d hd => h d (List.mem_cons_of_mem b hd), List.append_assoc]

theorem dots_segmentChars (s : List Char) : dots (segmentChars s) = segmentChars s := by
  -- A dot is never escaped in a segment, so a written segment has no encoded dots.
  induction s with
  | nil => rfl
  | cons c s ih =>
    change dots (Percent.encodeChar Url.isEscapedInSegment c ++ segmentChars s) =
      Percent.encodeChar Url.isEscapedInSegment c ++ segmentChars s
    unfold Percent.encodeChar
    split
    · next hkept =>
      have hc : c ≠ '%' := by
        rintro rfl
        exact absurd hkept (by decide)
      rw [List.singleton_append, dots_cons_of_ne hc, ih]
    · next hescaped =>
      rw [dots_bytes_append _ _, ih]
      intro b hb hdot
      rcases Utf8.mem_utf8EncodeChar hb with hbyte | hhigh
      · have hc : c = '.' := Char.toNat_inj.mp (hbyte.symm.trans hdot)
        subst hc
        exact hescaped (by decide)
      · omega

theorem isDotted_segmentChars {s : List Char} : IsDotted (segmentChars s) ↔ IsDots s := by
  unfold IsDotted
  rw [dots_segmentChars]
  constructor
  · rintro (h | h)
    · exact Or.inl (Url.segmentChars_injective h)
    · exact Or.inr (Url.segmentChars_injective h)
  · rintro (rfl | rfl)
    · exact Or.inl (by decide)
    · exact Or.inr (by decide)

/-! ## Following them -/

theorem push_of_not_dotted {s : List Char} (h : ¬ IsDotted s) (done : List (List Char)) :
    push done s = s :: done := by
  obtain ⟨h1, h2⟩ := not_or.mp h
  rw [push, if_neg h1, if_neg h2]

theorem pushLast_of_not_dotted {s : List Char} (h : ¬ IsDotted s) (done : List (List Char)) :
    pushLast done s = s :: done := by
  obtain ⟨h1, h2⟩ := not_or.mp h
  rw [pushLast, if_neg h1, if_neg h2]

theorem mem_push {s t : List Char} {done : List (List Char)} (h : t ∈ push done s) :
    t ∈ done ∨ t = s ∧ ¬ IsDotted s := by
  by_cases hs : IsDotted s
  · unfold push at h
    rcases hs with h1 | h2
    · rw [if_pos h1] at h
      exact Or.inl h
    · rw [if_neg (by simp [h2]), if_pos h2] at h
      exact Or.inl (List.mem_of_mem_drop h)
  · rw [push_of_not_dotted hs, List.mem_cons] at h
    rcases h with h | h
    · exact Or.inr ⟨h, hs⟩
    · exact Or.inl h

theorem mem_pushLast {s t : List Char} {done : List (List Char)} (h : t ∈ pushLast done s) :
    t = [] ∨ t ∈ done ∨ t = s ∧ ¬ IsDotted s := by
  by_cases hs : IsDotted s
  · unfold pushLast at h
    rcases hs with h1 | h2
    · rw [if_pos h1, List.mem_cons] at h
      exact h.imp_right Or.inl
    · rw [if_neg (by simp [h2]), if_pos h2, List.mem_cons] at h
      exact h.imp_right fun h => Or.inl (List.mem_of_mem_drop h)
  · rw [pushLast_of_not_dotted hs, List.mem_cons] at h
    rcases h with h | h
    · exact Or.inr (Or.inr ⟨h, hs⟩)
    · exact Or.inr (Or.inl h)

theorem resolveFrom_cons {rest : List (List Char)} (h : rest ≠ []) (done : List (List Char))
    (s : List Char) : resolveFrom done (s :: rest) = resolveFrom (push done s) rest := by
  rw [resolveFrom]
  exact h

theorem resolveFrom_of_not_dotted (done segments : List (List Char))
    (h : ∀ s ∈ segments, ¬ IsDotted s) : resolveFrom done segments = done.reverse ++ segments := by
  induction done, segments using resolveFrom.induct with
  | case1 done => simp [resolveFrom]
  | case2 done last =>
    rw [resolveFrom, pushLast_of_not_dotted (h last List.mem_cons_self), List.reverse_cons]
  | case3 done s rest hrest ih =>
    rw [resolveFrom_cons hrest, ih fun t ht => h t (List.mem_cons_of_mem s ht),
      push_of_not_dotted (h s List.mem_cons_self)]
    simp

theorem mem_resolveFrom {done segments : List (List Char)} {t : List Char}
    (h : t ∈ resolveFrom done segments) : t = [] ∨ t ∈ done ∨ t ∈ segments ∧ ¬ IsDotted t := by
  induction done, segments using resolveFrom.induct with
  | case1 done => exact Or.inr (Or.inl (List.mem_reverse.mp h))
  | case2 done last =>
    rw [resolveFrom, List.mem_reverse] at h
    rcases mem_pushLast h with h | h | ⟨rfl, h⟩
    · exact Or.inl h
    · exact Or.inr (Or.inl h)
    · exact Or.inr (Or.inr ⟨List.mem_cons_self, h⟩)
  | case3 done s rest hrest ih =>
    rw [resolveFrom_cons hrest] at h
    rcases ih h with h | h | ⟨h, hd⟩
    · exact Or.inl h
    · rcases mem_push h with h | ⟨rfl, hd⟩
      · exact Or.inr (Or.inl h)
      · exact Or.inr (Or.inr ⟨List.mem_cons_self, hd⟩)
    · exact Or.inr (Or.inr ⟨List.mem_cons_of_mem s h, hd⟩)

theorem resolve_segmentChars {texts : List (List Char)}
    (h : ∀ t ∈ texts, ¬ IsDots t) :
    resolve (texts.map segmentChars) = texts.map segmentChars := by
  apply resolveFrom_of_not_dotted
  intro s hs
  obtain ⟨t, ht, rfl⟩ := List.mem_map.mp hs
  exact fun hs => h t ht (isDotted_segmentChars.mp hs)

theorem map_decode_segmentChars (texts : List (List Char)) :
    (texts.map segmentChars).map Percent.decode = texts.map Utf8.encode := by
  simp [Url.decode_segmentChars]

theorem not_dots_of_mem {written : List (List Char)} {t : List Char}
    (h : Utf8.encode t ∈ (resolve (written.map segmentChars)).map Percent.decode) : ¬ IsDots t := by
  obtain ⟨s, hs, hdecode⟩ := List.mem_map.mp h
  rcases mem_resolveFrom hs with rfl | hnone | ⟨hmem, hdotted⟩
  · have ht : [] = t := Utf8.encode_injective hdecode
    subst ht
    decide
  · simp at hnone
  · obtain ⟨u, -, rfl⟩ := List.mem_map.mp hmem
    rw [Url.decode_segmentChars] at hdecode
    rw [← Utf8.encode_injective hdecode, ← isDotted_segmentChars]
    exact hdotted

/-- Segments that are written for some texts and read as others were not moved: the texts are the
same, and there are no dots among them. -/
theorem eq_of_resolve_decodes {written texts : List (List Char)}
    (hdots : ∀ t ∈ written, IsDots t → t ∈ texts)
    (h : (resolve (written.map segmentChars)).map Percent.decode = texts.map Utf8.encode) :
    written = texts ∧ ∀ t ∈ texts, ¬ IsDots t := by
  have hplain : ∀ t ∈ texts, ¬ IsDots t := by
    intro t ht
    have hmem : Utf8.encode t ∈ (resolve (written.map segmentChars)).map Percent.decode := by
      rw [h]
      exact List.mem_map_of_mem ht
    exact not_dots_of_mem hmem
  rw [resolve_segmentChars fun t ht hd => hplain t (hdots t ht hd) hd, map_decode_segmentChars] at h
  exact ⟨List.map_injective_iff.mpr (fun _ _ => Utf8.encode_injective) h, hplain⟩

end Portal.Address

import Mathlib.Tactic.SplitIfs
import Portal.Url.Encoding

/-!
# Percent-encoding is undone by decoding

Any set of escaped characters will do, as long as `%` is one of them.
-/

namespace Portal.Utf8

theorem encode_injective {s t : List Char} (h : encode s = encode t) : s = t := by
  have hbytes : String.ofList s = String.ofList t := by
    rw [← String.toByteArray_inj]
    simp only [String.toByteArray_ofList, List.utf8Encode]
    exact congrArg List.toByteArray h
  exact String.ofList_injective hbytes

theorem le_toNat_ofNat (n : Nat) (h : 0x80 ≤ n) (h256 : n < 256) :
    0x80 ≤ (UInt8.ofNat n).toNat := by
  simp
  omega

theorem mem_utf8EncodeChar {c : Char} {b : UInt8} (h : b ∈ String.utf8EncodeChar c) :
    b.toNat = c.toNat ∨ 0x80 ≤ b.toNat := by
  unfold String.utf8EncodeChar at h
  simp only at h
  split_ifs at h with h1 h2 h3 <;> simp only [List.mem_cons, List.not_mem_nil, or_false] at h
  · subst h
    left
    change c.val.toNat % 256 = c.val.toNat
    omega
  all_goals
    right
    rcases h with rfl | rfl | rfl | rfl
    all_goals exact le_toNat_ofNat _ (by omega) (by omega)

end Portal.Utf8

namespace Portal.Percent

variable {escaped : Char → Bool}

/-! ## Digits -/

theorem hexVal?_upperHexDigit : ∀ n < 16, Text.hexVal? (upperHexDigit n) = some n := by decide

theorem upperHexDigit_ne_percent : ∀ n < 16, upperHexDigit n ≠ '%' := by decide

/-! ## Decoding -/

theorem decode_cons_of_ne {c : Char} (h : c ≠ '%') (s : List Char) :
    decode (c :: s) = String.utf8EncodeChar c ++ decode s := by
  rw [decode]
  intro a b rest hc
  exact absurd hc h

theorem decode_byte_append (b : UInt8) (s : List Char) : decode (byte b ++ s) = b :: decode s := by
  have hb : b.toNat < 256 := b.toNat_lt
  have hhigh := hexVal?_upperHexDigit (b.toNat / 16) (by omega)
  have hlow := hexVal?_upperHexDigit (b.toNat % 16) (by omega)
  simp only [byte, List.cons_append, List.nil_append, decode, hhigh, hlow]
  rw [Nat.div_add_mod, UInt8.ofNat_toNat]

theorem decode_bytes_append (bs : List UInt8) (s : List Char) :
    decode (bs.flatMap byte ++ s) = bs ++ decode s := by
  induction bs with
  | nil => rfl
  | cons b bs ih => rw [List.flatMap_cons, List.append_assoc, decode_byte_append, ih]; rfl

theorem decode_encodeChar_append (hp : escaped '%' = true) (c : Char) (s : List Char) :
    decode (encodeChar escaped c ++ s) = String.utf8EncodeChar c ++ decode s := by
  unfold encodeChar
  split
  · next hc =>
    apply decode_cons_of_ne
    rintro rfl
    simp [hp] at hc
  · exact decode_bytes_append _ s

theorem decode_encode (hp : escaped '%' = true) (s : List Char) :
    decode (encode escaped s) = Utf8.encode s := by
  induction s with
  | nil => rfl
  | cons c s ih =>
    rw [encode, List.flatMap_cons, decode_encodeChar_append hp]
    change String.utf8EncodeChar c ++ decode (encode escaped s) = _
    rw [ih]
    rfl

/-! ## Encoding -/

theorem mem_encode {s : List Char} {d : Char} (h : d ∈ encode escaped s) :
    (d ∈ s ∧ d.toNat < 0x80 ∧ escaped d = false) ∨ d = '%' ∨ ∃ n < 16, d = upperHexDigit n := by
  obtain ⟨c, hc, hd⟩ := List.mem_flatMap.mp h
  unfold encodeChar at hd
  split at hd
  · next hkept =>
    obtain rfl := List.mem_singleton.mp hd
    simp only [Bool.and_eq_true, decide_eq_true_eq, Bool.not_eq_true'] at hkept
    exact Or.inl ⟨hc, hkept⟩
  · obtain ⟨b, -, hb⟩ := List.mem_flatMap.mp hd
    have hb256 : b.toNat < 256 := b.toNat_lt
    simp only [byte, List.mem_cons, List.not_mem_nil, or_false] at hb
    rcases hb with rfl | rfl | rfl
    · exact Or.inr (Or.inl rfl)
    · exact Or.inr (Or.inr ⟨_, by omega, rfl⟩)
    · exact Or.inr (Or.inr ⟨_, by omega, rfl⟩)

theorem encode_eq_self {s : List Char} (h : ∀ c ∈ s, c.toNat < 0x80 ∧ escaped c = false) :
    encode escaped s = s := by
  induction s with
  | nil => rfl
  | cons c s ih =>
    obtain ⟨hlt, hkept⟩ := h c List.mem_cons_self
    rw [encode, List.flatMap_cons, encodeChar, if_pos (by simp [hlt, hkept])]
    exact congrArg (c :: ·) (ih fun d hd => h d (List.mem_cons_of_mem c hd))

theorem encode_append (s t : List Char) :
    encode escaped (s ++ t) = encode escaped s ++ encode escaped t :=
  List.flatMap_append

theorem length_bytes (bs : List UInt8) : (bs.flatMap byte).length = 3 * bs.length := by
  induction bs with
  | nil => rfl
  | cons b bs ih =>
    rw [List.flatMap_cons, List.length_append, ih, List.length_cons, Nat.mul_succ, Nat.add_comm]
    rfl

theorem length_encodeChar_pos (escaped : Char → Bool) (c : Char) :
    0 < (encodeChar escaped c).length := by
  unfold encodeChar
  split
  · exact Nat.one_pos
  · rw [length_bytes, String.length_utf8EncodeChar]
    exact Nat.mul_pos (by decide) c.utf8Size_pos

theorem kept_of_length_le {c : Char} (h : (encodeChar escaped c).length ≤ 1) :
    c.toNat < 0x80 ∧ escaped c = false := by
  -- An escape takes three characters at least.
  unfold encodeChar at h
  split at h
  · next hkept => simpa using hkept
  · have hsize := c.utf8Size_pos
    rw [length_bytes, String.length_utf8EncodeChar] at h
    omega

theorem length_le_encode (escaped : Char → Bool) (s : List Char) :
    s.length ≤ (encode escaped s).length := by
  induction s with
  | nil => exact Nat.le_refl 0
  | cons c s ih =>
    have hc := length_encodeChar_pos escaped c
    rw [encode, List.flatMap_cons, ← encode, List.length_append, List.length_cons]
    omega

theorem encode_eq_self_iff (s : List Char) :
    encode escaped s = s ↔ ∀ c ∈ s, c.toNat < 0x80 ∧ escaped c = false := by
  -- Nothing is written shorter than it is, so a text that stays as it is has nothing to escape.
  refine ⟨?_, encode_eq_self⟩
  induction s with
  | nil => simp
  | cons c s ih =>
    intro h
    rw [encode, List.flatMap_cons, ← encode] at h
    have hlength := congrArg List.length h
    simp only [List.length_append, List.length_cons] at hlength
    have hrest := length_le_encode escaped s
    have hkept : c.toNat < 0x80 ∧ escaped c = false := kept_of_length_le (by omega)
    rw [encodeChar, if_pos (by simp [hkept])] at h
    have hs := ih (List.cons.inj h).2
    simpa [hkept] using hs

/-! ## Escapes -/

def IsUpperHex (c : Char) : Prop :=
  c ∈ "0123456789ABCDEF".toList

instance (c : Char) : Decidable (IsUpperHex c) := inferInstanceAs (Decidable (_ ∈ _))

/-- Each percent sign has its two digits after it. -/
def EscapesWhole (s : List Char) : Prop :=
  ∀ a b, s = a ++ '%' :: b → ∃ x y rest, b = x :: y :: rest ∧ IsUpperHex x ∧ IsUpperHex y

theorem isUpperHex_upperHexDigit : ∀ n < 16, IsUpperHex (upperHexDigit n) := by decide

theorem escapesWhole_of_not_mem {s : List Char} (h : '%' ∉ s) : EscapesWhole s := by
  rintro a b rfl
  simp at h

theorem escapesWhole_byte (b : UInt8) : EscapesWhole (byte b) := by
  have hb : b.toNat < 256 := b.toNat_lt
  have hhigh : b.toNat / 16 < 16 := by omega
  have hlow : b.toNat % 16 < 16 := by omega
  intro a rest h
  cases a with
  | nil =>
    obtain rfl := (List.cons.inj h).2
    exact ⟨_, _, [], rfl, isUpperHex_upperHexDigit _ hhigh, isUpperHex_upperHexDigit _ hlow⟩
  | cons c a =>
    -- No digit is a percent sign.
    have hmem : '%' ∈ [upperHexDigit (b.toNat / 16), upperHexDigit (b.toNat % 16)] := by
      rw [(List.cons.inj h).2]
      simp
    simp only [List.mem_cons, List.not_mem_nil, or_false] at hmem
    rcases hmem with hdigit | hdigit
    · exact absurd hdigit.symm (upperHexDigit_ne_percent _ hhigh)
    · exact absurd hdigit.symm (upperHexDigit_ne_percent _ hlow)

theorem EscapesWhole.append {s t : List Char} (hs : EscapesWhole s) (ht : EscapesWhole t) :
    EscapesWhole (s ++ t) := by
  intro a b h
  rcases List.append_eq_append_iff.mp h with ⟨middle, rfl, hmiddle⟩ | ⟨middle, hmiddle, hb⟩
  · exact ht middle b hmiddle
  · cases middle with
    | nil => exact ht [] b hb.symm
    | cons c middle =>
      obtain ⟨rfl, rfl⟩ := List.cons.inj hb
      obtain ⟨x, y, rest, rfl, hx, hy⟩ := hs a middle hmiddle
      exact ⟨x, y, rest ++ t, rfl, hx, hy⟩

theorem escapesWhole_flatMap {f : α → List Char} (h : ∀ x, EscapesWhole (f x)) (l : List α) :
    EscapesWhole (l.flatMap f) := by
  induction l with
  | nil => exact escapesWhole_of_not_mem (by simp)
  | cons x l ih =>
    rw [List.flatMap_cons]
    exact (h x).append ih

theorem escapesWhole_encode (hp : escaped '%' = true) (s : List Char) :
    EscapesWhole (encode escaped s) := by
  apply escapesWhole_flatMap
  intro c
  unfold encodeChar
  split
  · next hc =>
    apply escapesWhole_of_not_mem
    rw [List.mem_singleton]
    rintro rfl
    simp [hp] at hc
  · exact escapesWhole_flatMap escapesWhole_byte _

end Portal.Percent

import Portal.Proofs.Text.Pieces
import Portal.Proofs.Text.Utf8
import Portal.Proofs.Url.Percent
import Portal.Url.Encoding

/-!
# Query strings are read back

Whatever the pairs hold, the form encoding of them is read as these pairs.
-/

namespace Portal.Form

/-! ## Reading a query -/

/-- A plus sign stands for a space, and percent signs for bytes of UTF-8. -/
def textOf (s : List Char) : String :=
  .ofList (Utf8.decodeLossy (Percent.decode (s.map fun c => if c = '+' then ' ' else c)))

/-- Without an equals sign there is no value. -/
def pairOf (s : List Char) : String × String :=
  match Text.splitOnce '=' s with
  | some (key, value) => (textOf key, textOf value)
  | none => (textOf s, "")

/-- The pairs between the ampersands. Where nothing stands between them there is no pair. -/
def read (query : List Char) : List (String × String) :=
  ((Text.pieces '&' query).filter fun p => !p.isEmpty).map pairOf

/-! ## One text -/

theorem upperHexDigit_ne_mark : ∀ n < 16, Percent.upperHexDigit n ∉ ['&', '=', '+'] := by decide

theorem not_mark_of_mem_encodeChar {c d : Char} (h : d ∈ Percent.encodeChar isEscaped c) :
    d ∉ ['&', '=', '+'] := by
  have hone : d ∈ Percent.encode isEscaped [c] := by
    rw [Percent.encode, List.flatMap_singleton]
    exact h
  rcases Percent.mem_encode hone with ⟨-, -, hkept⟩ | rfl | ⟨n, hn, rfl⟩
  · intro hmark
    simp only [List.mem_cons, List.not_mem_nil, or_false] at hmark
    rcases hmark with rfl | rfl | rfl <;> exact absurd hkept (by decide)
  · decide
  · exact upperHexDigit_ne_mark n hn

theorem not_separator_of_mem_encode {s : List Char} {d : Char} (h : d ∈ encode s) :
    d ≠ '&' ∧ d ≠ '=' := by
  obtain ⟨c, -, hd⟩ := List.mem_flatMap.mp h
  unfold encodeChar at hd
  split at hd
  · obtain rfl := List.mem_singleton.mp hd
    decide
  · have hmark := not_mark_of_mem_encodeChar hd
    simp only [List.mem_cons, List.not_mem_nil, or_false, not_or] at hmark
    exact ⟨hmark.1, hmark.2.1⟩

theorem decode_encodeChar_append (c : Char) (s : List Char) :
    Percent.decode (((encodeChar c).map fun c => if c = '+' then ' ' else c) ++ s) =
      String.utf8EncodeChar c ++ Percent.decode s := by
  unfold encodeChar
  split
  · next hspace =>
    subst hspace
    exact Percent.decode_cons_of_ne (by decide) s
  · have hkept : ∀ d ∈ Percent.encodeChar isEscaped c, (if d = '+' then ' ' else d) = d := by
      intro d hd
      apply if_neg
      rintro rfl
      exact not_mark_of_mem_encodeChar hd (by decide)
    rw [List.map_congr_left hkept, List.map_id']
    exact Percent.decode_encodeChar_append rfl c s

theorem decode_encode (s : List Char) :
    Percent.decode ((encode s).map fun c => if c = '+' then ' ' else c) = Utf8.encode s := by
  induction s with
  | nil => rfl
  | cons c s ih =>
    rw [encode, List.flatMap_cons, List.map_append, decode_encodeChar_append]
    exact congrArg (String.utf8EncodeChar c ++ ·) ih

theorem textOf_encode (s : String) : textOf (encode s.toList) = s := by
  rw [textOf, decode_encode, Utf8.decodeLossy_encode, String.ofList_toList]

/-! ## Pairs -/

theorem pairOf_pairText (p : String × String) : pairOf (pairText p) = p := by
  have hkey : '=' ∉ encode p.1.toList := fun h => (not_separator_of_mem_encode h).2 rfl
  rw [pairOf, pairText, Text.splitOnce_append_cons hkey]
  simp only [textOf_encode]

theorem ampersand_not_mem_pairText (p : String × String) : '&' ∉ pairText p := by
  rw [pairText, List.mem_append, List.mem_cons]
  rintro (h | h | h)
  · exact (not_separator_of_mem_encode h).1 rfl
  · exact absurd h (by decide)
  · exact (not_separator_of_mem_encode h).1 rfl

theorem read_text (ps : List (String × String)) : read (text ps) = ps := by
  cases ps with
  | nil => rfl
  | cons p ps =>
    have hpieces : Text.pieces '&' (text (p :: ps)) = (p :: ps).map pairText := by
      apply Text.pieces_joined (by simp)
      intro t ht
      obtain ⟨q, -, rfl⟩ := List.mem_map.mp ht
      exact ampersand_not_mem_pairText q
    have hfilled : ((p :: ps).map pairText).filter (fun t => !t.isEmpty) =
        (p :: ps).map pairText := by
      rw [List.filter_eq_self]
      intro t ht
      obtain ⟨q, -, rfl⟩ := List.mem_map.mp ht
      simp [pairText]
    have hread : (pairOf ∘ pairText) = id := funext pairOf_pairText
    rw [read, hpieces, hfilled, List.map_map, hread, List.map_id]

theorem text_injective {ps qs : List (String × String)} (h : text ps = text qs) : ps = qs := by
  rw [← read_text ps, ← read_text qs, h]

end Portal.Form

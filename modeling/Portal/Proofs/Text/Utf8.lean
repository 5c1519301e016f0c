import Mathlib.Tactic.SplitIfs
import Portal.Text.Basic
import Portal.Text.Utf8

/-! # Bytes of a text are read as that text -/

namespace Portal.Utf8

/-! ## Bytes that continue a character -/

theorem run_cons (q : Scan) (b : UInt8) (bytes : List UInt8) :
    q.run (b :: bytes) = (q.step b).2 ++ (q.step b).1.run bytes := by
  cases q <;> rfl

theorem toNat_continuation {x : Nat} (hx : x < 64) : (UInt8.ofNat (x + 128)).toNat = x + 128 :=
  UInt8.toNat_ofNat_of_lt' (by rw [UInt8.size]; omega)

variable {low high : UInt8} {x : Nat}

theorem continues (hx : x < 64) (hlow : low.toNat ≤ x + 128) (hhigh : x + 128 ≤ high.toNat) :
    low ≤ UInt8.ofNat (x + 128) ∧ UInt8.ofNat (x + 128) ≤ high := by
  rw [UInt8.le_iff_toNat_le, UInt8.le_iff_toNat_le, toNat_continuation hx]
  exact ⟨hlow, hhigh⟩

theorem run_owed_zero (hx : x < 64) (hlow : low.toNat ≤ x + 128) (hhigh : x + 128 ≤ high.toNat)
    (bits : Nat) (bytes : List UInt8) :
    Scan.run (.owed 0 low high bits) (UInt8.ofNat (x + 128) :: bytes) =
      some (Char.ofNat (64 * bits + x)) :: Scan.idle.run bytes := by
  rw [run_cons, Scan.step, if_pos (continues hx hlow hhigh), toNat_continuation hx,
    Nat.add_sub_cancel]
  rfl

theorem run_owed_succ (hx : x < 64) (hlow : low.toNat ≤ x + 128) (hhigh : x + 128 ≤ high.toNat)
    (more bits : Nat) (bytes : List UInt8) :
    Scan.run (.owed (more + 1) low high bits) (UInt8.ofNat (x + 128) :: bytes) =
      Scan.run (.owed more 0x80 0xBF (64 * bits + x)) bytes := by
  rw [run_cons, Scan.step, if_pos (continues hx hlow hhigh), toNat_continuation hx,
    Nat.add_sub_cancel]
  rfl

/-! ## First bytes -/

theorem start_two {n : Nat} (hlow : 0xC2 ≤ n) (hhigh : n ≤ 0xDF) :
    Scan.start (UInt8.ofNat n) = (.owed 0 0x80 0xBF (n - 0xC0), []) := by
  have hn : (UInt8.ofNat n).toNat = n := UInt8.toNat_ofNat_of_lt' (by rw [UInt8.size]; omega)
  simp only [Scan.start, hn]
  rw [if_neg (by omega), if_pos ⟨hlow, hhigh⟩]

theorem start_three {n x : Nat} (hlow : 0xE0 ≤ n) (hhigh : n ≤ 0xEF) (hx : x < 64)
    (hlong : n = 0xE0 → 32 ≤ x) (hvalid : n = 0xED → x < 32) :
    ∃ low high : UInt8, Scan.start (UInt8.ofNat n) = (.owed 1 low high (n - 0xE0), []) ∧
      low.toNat ≤ x + 128 ∧ x + 128 ≤ high.toNat := by
  -- The second byte is bounded so that the character needs three bytes and is no surrogate.
  have hn : (UInt8.ofNat n).toNat = n := UInt8.toNat_ofNat_of_lt' (by rw [UInt8.size]; omega)
  simp only [Scan.start, hn]
  rw [if_neg (by omega), if_neg (by omega)]
  split_ifs with hfirst hsurrogate hrest
  · subst hfirst
    exact ⟨0xA0, 0xBF, rfl, Nat.add_le_add_right (hlong rfl) 128, by simp; omega⟩
  · subst hsurrogate
    have := hvalid rfl
    exact ⟨0x80, 0x9F, rfl, by simp, by simp; omega⟩
  · exact ⟨0x80, 0xBF, rfl, by simp, by simp; omega⟩
  all_goals omega

theorem start_four {n x : Nat} (hlow : 0xF0 ≤ n) (hhigh : n ≤ 0xF4) (hx : x < 64)
    (hlong : n = 0xF0 → 16 ≤ x) (hvalid : n = 0xF4 → x < 16) :
    ∃ low high : UInt8, Scan.start (UInt8.ofNat n) = (.owed 2 low high (n - 0xF0), []) ∧
      low.toNat ≤ x + 128 ∧ x + 128 ≤ high.toNat := by
  -- The second byte is bounded so that the character needs four bytes and is one of Unicode's.
  have hn : (UInt8.ofNat n).toNat = n := UInt8.toNat_ofNat_of_lt' (by rw [UInt8.size]; omega)
  simp only [Scan.start, hn]
  rw [if_neg (by omega), if_neg (by omega), if_neg (by omega), if_neg (by omega), if_neg (by omega)]
  split_ifs with hfirst hinner hlast
  · subst hfirst
    exact ⟨0x90, 0xBF, rfl, Nat.add_le_add_right (hlong rfl) 128, by simp; omega⟩
  · exact ⟨0x80, 0xBF, rfl, by simp, by simp; omega⟩
  · subst hlast
    have := hvalid rfl
    exact ⟨0x80, 0x8F, rfl, by simp, by simp; omega⟩
  · omega

/-! ## Whole characters -/

theorem run_utf8EncodeChar_append (c : Char) (bytes : List UInt8) :
    Scan.idle.run (String.utf8EncodeChar c ++ bytes) = some c :: Scan.idle.run bytes := by
  have hvalid : c.val.toNat < 55296 ∨ 57343 < c.val.toNat ∧ c.val.toNat < 1114112 := c.valid
  have hread : ∀ n, n = c.val.toNat → Char.ofNat n = c := by
    rintro n rfl
    exact Char.ofNat_toNat c
  unfold String.utf8EncodeChar
  simp only
  generalize c.val.toNat = v at hvalid hread
  split_ifs with h1 h2 h3 <;> simp only [List.cons_append, List.nil_append]
  · have hn : (UInt8.ofNat v).toNat = v := UInt8.toNat_ofNat_of_lt' (by rw [UInt8.size]; omega)
    rw [run_cons]
    simp only [Scan.step, Scan.start, hn, if_pos h1, hread v rfl]
    rfl
  · rw [run_cons, Scan.step, start_two (by omega) (by omega)]
    change Scan.run _ _ = _
    rw [run_owed_zero (by omega) (by simp) (by simp; omega), hread _ (by omega)]
  · obtain ⟨low, high, hstart, hlow, hhigh⟩ := start_three (n := v / 4096 % 16 + 224)
      (x := v / 64 % 64) (by omega) (by omega) (by omega) (by omega) (by omega)
    rw [run_cons, Scan.step, hstart]
    change Scan.run _ _ = _
    rw [run_owed_succ (by omega) hlow hhigh, run_owed_zero (by omega) (by simp) (by simp; omega),
      hread _ (by omega)]
  · obtain ⟨low, high, hstart, hlow, hhigh⟩ := start_four (n := v / 262144 % 8 + 240)
      (x := v / 4096 % 64) (by omega) (by omega) (by omega) (by omega) (by omega)
    rw [run_cons, Scan.step, hstart]
    change Scan.run _ _ = _
    rw [run_owed_succ (by omega) hlow hhigh, run_owed_succ (by omega) (by simp) (by simp; omega),
      run_owed_zero (by omega) (by simp) (by simp; omega), hread _ (by omega)]

/-! ## Texts -/

theorem scan_encode (s : List Char) : scan (encode s) = s.map some := by
  induction s with
  | nil => rfl
  | cons c s ih =>
    rw [scan, encode, List.flatMap_cons, run_utf8EncodeChar_append]
    exact congrArg (some c :: ·) ih

theorem decode?_encode (s : List Char) : decode? (encode s) = some s := by
  rw [decode?, scan_encode]
  induction s with
  | nil => rfl
  | cons c s ih =>
    rw [List.map_cons, List.mapM_cons, ih]
    rfl

theorem decodeLossy_encode (s : List Char) : decodeLossy (encode s) = s := by
  rw [decodeLossy, scan_encode, List.map_map]
  exact List.map_id s

/-! ## Lines -/

/-- A line feed is none of the bytes that are owed. -/
def OwesNoLineFeed : Scan → Prop
  | .idle => True
  | .owed _ low _ _ => 0x80 ≤ low

theorem owesNoLineFeed_start (b : UInt8) : OwesNoLineFeed (Scan.start b).1 := by
  simp only [Scan.start]
  split_ifs <;> simp [OwesNoLineFeed]

theorem OwesNoLineFeed.step {q : Scan} (hq : OwesNoLineFeed q) (b : UInt8) :
    OwesNoLineFeed (q.step b).1 := by
  cases q with
  | idle => exact owesNoLineFeed_start b
  | owed more low high bits =>
    rw [Scan.step]
    split
    · cases more <;> simp [OwesNoLineFeed]
    · exact owesNoLineFeed_start b

theorem OwesNoLineFeed.run {q : Scan} (hq : OwesNoLineFeed q) (line rest : List UInt8) :
    q.run (line ++ 0x0A :: rest) = q.run line ++ some '\n' :: Scan.idle.run rest := by
  induction line generalizing q with
  | nil =>
    cases q with
    | idle => rfl
    | owed more low high bits =>
      have hlow : ¬ (low ≤ 0x0A ∧ (0x0A : UInt8) ≤ high) := by
        rintro ⟨hlow, -⟩
        exact absurd (UInt8.le_trans hq hlow) (by decide)
      rw [List.nil_append, run_cons, Scan.step, if_neg hlow]
      rfl
  | cons b line ih =>
    rw [List.cons_append, run_cons, run_cons, ih (hq.step b), List.append_assoc]

theorem decode?_line (line rest : List UInt8) :
    decode? (line ++ 0x0A :: rest) =
      (decode? line).bind fun s => (decode? rest).map fun t => s ++ '\n' :: t := by
  rw [decode?, scan, OwesNoLineFeed.run (q := .idle) trivial, List.mapM_append, List.mapM_cons]
  change (decode? line).bind (fun s => ((decode? rest).bind fun t => some ('\n' :: t)).bind
    fun t => some (s ++ t)) = _
  cases decode? line with
  | none => rfl
  | some s => cases decode? rest <;> rfl

theorem mapM_decode?_cons (line : List UInt8) (lines : List (List UInt8)) :
    (line :: lines).mapM decode? =
      (decode? line).bind fun s => (lines.mapM decode?).map fun ss => s :: ss := by
  rw [List.mapM_cons]
  cases decode? line with
  | none => rfl
  | some s => cases lines.mapM decode? <;> rfl

theorem decode?_lines (lines : List (List UInt8)) :
    decode? ([0x0A].intercalate lines) = (lines.mapM decode?).map (Text.joined '\n') := by
  induction lines with
  | nil => rfl
  | cons line lines ih =>
    cases lines with
    | nil =>
      rw [List.intercalate_singleton, mapM_decode?_cons]
      cases decode? line <;> rfl
    | cons next lines =>
      rw [List.intercalate_cons_cons, List.append_assoc, List.singleton_append, decode?_line, ih,
        mapM_decode?_cons line, mapM_decode?_cons next]
      cases decode? line with
      | none => rfl
      | some s =>
        cases decode? next with
        | none => rfl
        | some t => cases lines.mapM decode? <;> rfl

end Portal.Utf8

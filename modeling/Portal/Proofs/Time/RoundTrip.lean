import Portal.Proofs.Text.PaddedDigits
import Portal.Time.Reader

/-!
# Points in time are read as they are written

Every part of the text has a fixed number of digits or ends at a character that is no digit, so the
reader takes exactly what was written for it.
-/

namespace Portal

theorem daysInMonth_le (year : Int) (month : Nat) : daysInMonth year month ≤ 31 := by
  rw [daysInMonth]
  split
  · split <;> decide
  · split <;> decide

theorem Date.of?_self (d : Date) : Date.of? d.year d.month d.day = some d :=
  dif_pos d.in_calendar

namespace Timestamp

open Text (isDigit isBlank digitsVal paddedDigits trimStart)

namespace Reader

variable {ds s : List Char} {c : Char} {n width low high : Nat}

/-! ## Digits -/

theorem digits_append (hds : ∀ d ∈ ds, isDigit d = true) (hne : ds ≠ []) (hw : ds.length ≤ width)
    (hs : (s.take (width - ds.length)).takeWhile isDigit = []) :
    digits width (ds ++ s) = .ok (ds, s) := by
  have htake : ((ds ++ s).take width).takeWhile isDigit = ds := by
    rw [List.take_append, List.take_of_length_le hw, List.takeWhile_append_of_pos hds, hs,
      List.append_nil]
  obtain ⟨d, ds, rfl⟩ := List.exists_cons_of_ne_nil hne
  rw [List.cons_append, digits, if_pos (hds d List.mem_cons_self), ← List.cons_append, htake]
  simp only [List.drop_left]

theorem takeWhile_take_cons (hc : isDigit c = false) (k : Nat) :
    ((c :: s).take k).takeWhile isDigit = [] := by
  cases k with
  | zero => rfl
  | succ k => rw [List.take_succ_cons, List.takeWhile_cons_of_neg (by simp [hc])]

theorem number_append {k : Nat} (hw : (paddedDigits k n).length ≤ width)
    (hs : (s.take (width - (paddedDigits k n).length)).takeWhile isDigit = []) :
    number width (paddedDigits k n ++ s) = .ok (n, s) := by
  rw [number, digits_append Text.isDigit_of_mem_paddedDigits Text.paddedDigits_ne_nil hw hs]
  exact congrArg (fun m => Except.ok (m, s)) Text.digitsVal_paddedDigits

theorem number_paddedDigits (hw : 0 < width) (hn : n < 10 ^ width) :
    number width (paddedDigits width n ++ s) = .ok (n, s) := by
  have hlen : (paddedDigits width n).length = width := Text.length_paddedDigits hw hn
  refine number_append (Nat.le_of_eq hlen) ?_
  rw [hlen, Nat.sub_self]
  rfl

theorem number_until (hc : isDigit c = false) :
    number (paddedDigits width n ++ c :: s).length (paddedDigits width n ++ c :: s) =
      .ok (n, c :: s) :=
  number_append (by simp) (takeWhile_take_cons hc _)

/-! ## Fields -/

theorem field_paddedDigits (hn : low ≤ n ∧ n ≤ high) (hhigh : high < 100) :
    field low high (paddedDigits 2 n ++ s) = .ok (n, s) := by
  rw [field, Text.trimStart_paddedDigits_append, number_paddedDigits (by decide) (by omega)]
  exact if_pos hn

theorem fieldAfter_paddedDigits (hc : isBlank c = false) (hn : low ≤ n ∧ n ≤ high)
    (hhigh : high < 100) : fieldAfter c low high (c :: (paddedDigits 2 n ++ s)) = .ok (n, s) := by
  rw [fieldAfter, Text.trimStart_cons hc, literal, if_pos rfl]
  exact field_paddedDigits hn hhigh

/-! ## Year -/

theorem year_minus (hn : n ≤ 2147483648) (hc : isDigit c = false) :
    year ('-' :: (paddedDigits width n ++ c :: s)) = .ok (-(n : Int), c :: s) := by
  rw [year, Text.trimStart_cons (by decide)]
  change (number _ _ >>= _) = _
  rw [number_until hc]
  exact if_pos (by omega)

theorem year_plus (hn : n ≤ 2147483647) (hc : isDigit c = false) :
    year ('+' :: (paddedDigits width n ++ c :: s)) = .ok ((n : Int), c :: s) := by
  rw [year, Text.trimStart_cons (by decide)]
  change (number _ _ >>= _) = _
  rw [number_until hc]
  exact if_pos (by omega)

theorem year_unsigned (hn : n < 10000) :
    year (paddedDigits 4 n ++ s) = .ok ((n : Int), s) := by
  rw [year, Text.trimStart_paddedDigits_append]
  -- A digit comes first, and is no sign.
  split
  · next h => exact absurd h (Text.paddedDigits_append_ne_cons (by decide))
  · next h => exact absurd h (Text.paddedDigits_append_ne_cons (by decide))
  · rw [number_paddedDigits (by decide) hn]
    exact if_pos (by omega)

theorem year_yearText {y : Int} (hy : -2147483648 ≤ y ∧ y ≤ 2147483647) (hc : isDigit c = false) :
    year (yearText y ++ c :: s) = .ok (y, c :: s) := by
  rw [yearText]
  split
  · rw [List.cons_append, year_minus (by omega) hc]
    congr 2
    omega
  · split
    · rw [List.cons_append, year_plus (by omega) hc]
      congr 2
      omega
    · rw [year_unsigned (by omega)]
      congr 2
      omega

/-! ## Fraction -/

theorem fraction_paddedDigits {k nanos : Nat} (hk : 0 < k ∧ k ≤ 9) (hn : n < 10 ^ k)
    (hnanos : 10 ^ (9 - k) * n = nanos) (hc : isDigit c = false) :
    fraction ('.' :: (paddedDigits k n ++ c :: s)) = .ok (nanos, c :: s) := by
  have hlen : (paddedDigits k n).length = k := Text.length_paddedDigits hk.1 hn
  rw [fraction, digits_append Text.isDigit_of_mem_paddedDigits Text.paddedDigits_ne_nil (by omega)
    (takeWhile_take_cons hc _)]
  change Except.ok (digitsVal _, List.dropWhile isDigit (c :: s)) = _
  rw [hlen, Text.digitsVal_append_zeros, Text.digitsVal_paddedDigits, hnanos,
    List.dropWhile_cons_of_neg (by simp [hc])]

theorem fraction_fractionText {nanos : Nat} (hn : nanos < 1000000000) :
    fraction (fractionText nanos ++ ['Z']) = .ok (nanos, ['Z']) := by
  rw [fractionText]
  split
  · next h => rw [h]; rfl
  · split
    · exact fraction_paddedDigits (by decide) (by omega) (by omega) (by decide)
    · split
      · exact fraction_paddedDigits (by decide) (by omega) (by omega) (by decide)
      · exact fraction_paddedDigits (by decide) (by omega) (by omega) (by decide)

theorem zone_utc : zone (trimStart ['Z']) = .ok (0, []) := rfl

end Reader

/-! ## The whole text -/

/-- What follows the year when a time is written. -/
def afterYear (t : Timestamp) : List Char :=
  '-' :: (paddedDigits 2 t.date.month ++
    '-' :: (paddedDigits 2 t.date.day ++
      'T' :: (paddedDigits 2 t.hour ++
        ':' :: (paddedDigits 2 t.minute ++
          ':' :: (paddedDigits 2 t.second ++ (fractionText t.nanos ++ ['Z']))))))

theorem text_eq (t : Timestamp) : t.text = .ofList (yearText t.date.year ++ t.afterYear) := by
  simp [text, afterYear]

theorem ofLocal?_utc (t : Timestamp) :
    ofLocal? t.date t.hour t.minute t.second t.nanos 0 = some t := by
  obtain ⟨date, hour, minute, second, nanos, h⟩ := t
  have hofDay : ((60 * hour + minute - 0 : Int) % 1440).toNat = 60 * hour + minute := by omega
  have hhour : (60 * hour + minute) / 60 = hour := by omega
  have hminute : (60 * hour + minute) % 60 = minute := by omega
  unfold ofLocal?
  simp only [hofDay, hhour, hminute]
  rw [if_neg (by omega), if_neg (by omega)]
  exact dif_pos h

open Reader in
theorem parse_of_year (t : Timestamp) {ys : List Char}
    (hyear : year (ys ++ t.afterYear) = .ok (t.date.year, t.afterYear)) :
    parse (.ofList (ys ++ t.afterYear)) = .ok t := by
  obtain ⟨-, -, hmonth, hmonth', hday, hday'⟩ := t.date.in_calendar
  obtain ⟨hhour, hminute, hsecond, hnanos⟩ := t.in_day
  have hdays : daysInMonth t.date.year t.date.month ≤ 31 := daysInMonth_le _ _
  unfold parse
  rw [String.toList_ofList, hyear]
  change (fieldAfter '-' 1 12 ('-' :: _) >>= _) = _
  rw [fieldAfter_paddedDigits (by decide) ⟨hmonth, hmonth'⟩ (by decide)]
  change (fieldAfter '-' 1 31 _ >>= _) = _
  rw [fieldAfter_paddedDigits (by decide) ⟨hday, by omega⟩ (by decide)]
  change (field 0 23 _ >>= _) = _
  rw [field_paddedDigits (by omega) (by decide)]
  change (fieldAfter ':' 0 59 _ >>= _) = _
  rw [fieldAfter_paddedDigits (by decide) (by omega) (by decide)]
  change (fieldAfter ':' 0 60 _ >>= _) = _
  rw [fieldAfter_paddedDigits (by decide) (by omega) (by decide)]
  change (fraction _ >>= _) = _
  rw [fraction_fractionText hnanos]
  simp only [bind, Except.bind, zone_utc, Date.of?_self, ofLocal?_utc]
  rfl

theorem parse_text (t : Timestamp) : parse t.text = .ok t := by
  obtain ⟨hmin, hmax, -⟩ := t.date.in_calendar
  rw [text_eq]
  exact t.parse_of_year (Reader.year_yearText (by omega) (by decide))

theorem parse_signed (t : Timestamp) (width : Nat) (h : 0 ≤ t.date.year) :
    parse (.ofList ('+' :: paddedDigits width t.date.year.toNat ++ t.afterYear)) = .ok t := by
  obtain ⟨-, hmax, -⟩ := t.date.in_calendar
  apply parse_of_year
  rw [afterYear, List.cons_append, Reader.year_plus (by omega) (by decide), Int.toNat_of_nonneg h]

end Timestamp

end Portal

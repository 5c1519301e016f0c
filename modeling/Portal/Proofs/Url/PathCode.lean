import Portal.Proofs.Url.SegmentCode

/-!
# File paths as a code

A file's path is written as the names it goes through, each of them a segment, with one slash between
any two. The names can be read back, and nothing else of the path counts.
-/

namespace Portal.Url

/-- What stands between the slashes of a path, without the empty texts there. -/
def names (path : String) : List (List Char) :=
  (path.toList.splitOn '/').filter (· ≠ [])

/-- No slash stands at the start, at the end or beside another one. -/
def SlashesApart (s : List Char) : Prop :=
  s.head? ≠ some '/' ∧ s.getLast? ≠ some '/' ∧ ¬ ['/', '/'] <:+: s

/-- Both texts with a slash between them, or the other one if either is empty. -/
def slashed (s t : String) : String :=
  if s = "" then t else if t = "" then s else s ++ "/" ++ t

/-- What a file's path may rely on when it is written. The text of no names is empty. -/
structure IsPathCode (write : String → String) : Prop where
  same : ∀ p q, write p = write q ↔ names p = names q
  reads : ∀ p, names p ≠ [] →
    ((write p).toList.splitOn '/').map Percent.decode = (names p).map Utf8.encode
  empty : ∀ p, write p = "" ↔ names p = []
  apart : ∀ p, SlashesApart (write p).toList
  append : ∀ p q, write (p ++ "/" ++ q) = slashed (write p) (write q)

/-! ## Names -/

theorem pathPieces_eq_names (p : String) : pathPieces p.toList = names p := by
  rw [pathPieces, Text.pieces_eq_splitOn, names]
  congr 1
  funext s
  cases s <;> simp

theorem names_append (p q : String) : names (p ++ "/" ++ q) = names p ++ names q := by
  have hsplit : (p ++ "/" ++ q).toList = p.toList ++ '/' :: q.toList := by simp
  rw [← pathPieces_eq_names, hsplit, pathPieces, Text.pieces_append_cons, List.filter_append,
    ← pathPieces, ← pathPieces, pathPieces_eq_names, pathPieces_eq_names]

theorem ne_nil_of_mem_names {p : String} {n : List Char} (h : n ∈ names p) : n ≠ [] := by
  simpa using (List.mem_filter.mp h).2

/-! ## Written paths -/

theorem toList_encodePath (p : String) :
    (encodePath p).toList = Text.joined '/' ((names p).map segmentChars) := by
  rw [encodePath, String.toList_ofList, pathChars, pathPieces_eq_names]

theorem splitOn_encodePath {p : String} (h : names p ≠ []) :
    (encodePath p).toList.splitOn '/' = (names p).map segmentChars := by
  rw [toList_encodePath, ← Text.pieces_eq_splitOn, Text.pieces_joined (by simpa using h)]
  intro s hs
  obtain ⟨n, -, rfl⟩ := List.mem_map.mp hs
  exact slash_not_mem_segmentChars n

theorem encodePath_eq_empty_iff (p : String) : encodePath p = "" ↔ names p = [] := by
  constructor
  · intro h
    by_contra hne
    have hsplit := splitOn_encodePath hne
    -- The empty text has one empty segment, and no name is written as that.
    obtain ⟨n, ns, hn⟩ := List.exists_cons_of_ne_nil hne
    rw [h, hn] at hsplit
    have hfirst : [] = segmentChars n := (List.cons.inj hsplit).1
    have hmem : n ∈ names p := hn ▸ List.mem_cons_self
    exact segmentChars_ne_nil (ne_nil_of_mem_names hmem) hfirst.symm
  · intro h
    rw [← String.toList_inj, toList_encodePath, h]
    rfl

theorem encodePath_inj (p q : String) : encodePath p = encodePath q ↔ names p = names q := by
  constructor
  · intro h
    by_cases hp : names p = []
    · rw [hp, eq_comm, ← encodePath_eq_empty_iff, ← h, encodePath_eq_empty_iff, hp]
    · have hq : names q ≠ [] := by rwa [ne_eq, ← encodePath_eq_empty_iff, ← h, encodePath_eq_empty_iff]
      apply List.map_injective_iff.mpr fun _ _ => segmentChars_injective
      rw [← splitOn_encodePath hp, ← splitOn_encodePath hq, h]
  · intro h
    rw [← String.toList_inj, toList_encodePath, toList_encodePath, h]

/-! ## Its slashes -/

theorem slashesApart_of_pieces {s : List Char} (h : [] ∉ Text.pieces '/' s) : SlashesApart s := by
  refine ⟨?_, ?_, ?_⟩
  · intro hhead
    obtain ⟨b, rfl⟩ := List.head?_eq_some_iff.mp hhead
    exact h (by simp [Text.pieces])
  · intro hlast
    obtain ⟨a, rfl⟩ := List.getLast?_eq_some_iff.mp hlast
    rw [Text.pieces_append_cons] at h
    exact h (by simp [Text.pieces])
  · rintro ⟨a, b, rfl⟩
    rw [List.append_assoc, List.cons_append, Text.pieces_append_cons] at h
    exact h (by simp [Text.pieces])

theorem encodePath_slashesApart (p : String) : SlashesApart (encodePath p).toList := by
  by_cases h : names p = []
  · rw [(encodePath_eq_empty_iff p).mpr h]
    exact ⟨by simp, by simp, by simp⟩
  · apply slashesApart_of_pieces
    rw [Text.pieces_eq_splitOn, splitOn_encodePath h]
    intro hnil
    obtain ⟨n, hn, hempty⟩ := List.mem_map.mp hnil
    exact segmentChars_ne_nil (ne_nil_of_mem_names hn) hempty

/-! ## Paths below paths -/

theorem encodePath_append (p q : String) :
    encodePath (p ++ "/" ++ q) = slashed (encodePath p) (encodePath q) := by
  unfold slashed
  split_ifs with hp hq
  · rw [encodePath_inj, names_append, (encodePath_eq_empty_iff p).mp hp, List.nil_append]
  · rw [encodePath_inj, names_append, (encodePath_eq_empty_iff q).mp hq, List.append_nil]
  · rw [encodePath_eq_empty_iff] at hp hq
    have htext : (encodePath p ++ "/" ++ encodePath q).toList =
        (encodePath p).toList ++ '/' :: (encodePath q).toList := by simp
    rw [← String.toList_inj, htext, toList_encodePath, toList_encodePath, toList_encodePath,
      names_append, List.map_append, Text.joined_append (by simpa using hp) (by simpa using hq)]

/-- A written path says the names of the path and nothing more, whatever stands between its slashes
and however many of them there are. -/
theorem encodePath_isPathCode : IsPathCode encodePath where
  same := encodePath_inj
  reads p h := by
    rw [splitOn_encodePath h, List.map_map]
    exact List.map_congr_left fun n _ => decode_segmentChars n
  empty := encodePath_eq_empty_iff
  apart := encodePath_slashesApart
  append := encodePath_append

example : encodePath "/a b//é%/" = "a%20b/%C3%A9%25" := by decide +kernel

end Portal.Url

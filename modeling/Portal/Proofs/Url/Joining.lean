import Portal.Proofs.Url.Slashes

/-!
# Joining a base with an endpoint

One slash stands between the two, whatever slashes they bring, and it does not matter in which order
three texts are joined. The one in the middle may be nothing but slashes: then its two joints are one.
-/

namespace Portal.Url

/-- The stem of a base and the rest of an endpoint, with one slash between them, are all that counts. -/
structure IsSlashJoin (join : String → String → String) : Prop where
  spare : ∀ a b m n, join (a ++ slashes m) (slashes n ++ b) = join a b
  single : ∀ a b, ∃ t r, IsStem t a ∧ IsRest r b ∧ join a b = t ++ "/" ++ r
  endpoints : ∀ a b b', join a b = join a b' ↔ ∃ r, IsRest r b ∧ IsRest r b'
  bases : ∀ a a' b, join a b = join a' b ↔ ∃ t, IsStem t a ∧ IsStem t a'
  assoc : ∀ a b c, join (join a b) c = join a (join b c)

theorem toList_join (a b : String) :
    (join a b).toList = dropEndSlashes a.toList ++ '/' :: dropStartSlashes b.toList :=
  String.toList_ofList

theorem join_spare (a b : String) (m n : Nat) :
    join (a ++ slashes m) (slashes n ++ b) = join a b := by
  rw [← String.toList_inj, toList_join, toList_join, String.toList_append, String.toList_append,
    toList_slashes, toList_slashes, dropEndSlashes_append_replicate,
    dropStartSlashes_replicate_append]

theorem join_eq_of_stem {a b t r : String} (ht : IsStem t a) (hr : IsRest r b) :
    join a b = t ++ "/" ++ r := by
  rw [← String.toList_inj, toList_join, ← isStem_iff.mp ht, ← isRest_iff.mp hr]
  simp

theorem exists_isStem (a : String) : ∃ t, IsStem t a :=
  ⟨.ofList (dropEndSlashes a.toList), isStem_iff.mpr String.toList_ofList⟩

theorem exists_isRest (b : String) : ∃ r, IsRest r b :=
  ⟨.ofList (dropStartSlashes b.toList), isRest_iff.mpr String.toList_ofList⟩

theorem join_left_inj (a b b' : String) :
    join a b = join a b' ↔ ∃ r, IsRest r b ∧ IsRest r b' := by
  simp only [← String.toList_inj, toList_join, List.append_cancel_left_eq, List.cons.injEq, true_and,
    isRest_iff]
  constructor
  · intro h
    exact ⟨.ofList (dropStartSlashes b.toList), String.toList_ofList, by rw [String.toList_ofList, h]⟩
  · rintro ⟨r, hb, hb'⟩
    rw [← hb, ← hb']

theorem join_right_inj (a a' b : String) :
    join a b = join a' b ↔ ∃ t, IsStem t a ∧ IsStem t a' := by
  simp only [← String.toList_inj, toList_join, List.append_cancel_right_eq, isStem_iff]
  constructor
  · intro h
    exact ⟨.ofList (dropEndSlashes a.toList), String.toList_ofList, by rw [String.toList_ofList, h]⟩
  · rintro ⟨t, ha, ha'⟩
    rw [← ha, ← ha']

theorem dropEndSlashes_append_slash (a : List Char) :
    dropEndSlashes (dropEndSlashes a ++ ['/']) = dropEndSlashes a := by
  rw [show ['/'] = List.replicate 1 '/' from rfl, dropEndSlashes_append_replicate,
    dropEndSlashes_idem]

theorem dropStartSlashes_slash_cons (c : List Char) :
    dropStartSlashes ('/' :: dropStartSlashes c) = dropStartSlashes c :=
  dropStartSlashes_eq_self (head?_dropStartSlashes c)

theorem join_assoc (a b c : String) : join (join a b) c = join a (join b c) := by
  simp only [← String.toList_inj, toList_join]
  obtain ⟨n, hb | ⟨d, t, hd, hb⟩⟩ := eq_replicate_or b.toList
  · -- Nothing is left of the middle, and the slash on its left is the slash on its right.
    have hend : dropEndSlashes b.toList = [] := by
      rw [hb]
      exact dropEndSlashes_append_replicate [] n
    have hstart : dropStartSlashes b.toList = [] := by
      rw [hb, ← List.append_nil (List.replicate n '/'), dropStartSlashes_replicate_append]
      rfl
    rw [hend, hstart, dropEndSlashes_append_slash, List.nil_append, dropStartSlashes_slash_cons]
  · -- A character in the middle keeps the two slashes apart.
    have hleft : dropEndSlashes (dropEndSlashes a.toList ++ '/' :: d :: t) =
        dropEndSlashes a.toList ++ '/' :: d :: dropEndSlashes t := by
      simpa using dropEndSlashes_append_cons hd (dropEndSlashes a.toList ++ ['/']) t
    have hright (s : List Char) : dropStartSlashes (List.replicate n '/' ++ d :: s) = d :: s := by
      rw [dropStartSlashes_replicate_append, dropStartSlashes_cons hd]
    rw [hb, hright, hleft, dropEndSlashes_append_cons hd, List.append_assoc _ (d :: _),
      List.cons_append, hright]
    simp

/-- Bases and endpoints are joined by one slash, and associatively. -/
theorem join_isSlashJoin : IsSlashJoin join where
  spare := join_spare
  single a b := by
    obtain ⟨t, ht⟩ := exists_isStem a
    obtain ⟨r, hr⟩ := exists_isRest b
    exact ⟨t, r, ht, hr, join_eq_of_stem ht hr⟩
  endpoints := join_left_inj
  bases := join_right_inj
  assoc := join_assoc

example : join (join "http://h//" "//") "/v1" = "http://h/v1" := by decide +kernel

end Portal.Url

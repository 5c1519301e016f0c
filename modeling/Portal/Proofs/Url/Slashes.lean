import Portal.Proofs.Text.Pieces
import Portal.Url.Encoding

/-!
# Slashes at the ends of a text

What is left of a text without the slashes at its end is its stem, and without those at its start its
rest. Any other character keeps the slashes on its two sides apart.
-/

namespace Portal.Url

def slashes (n : Nat) : String :=
  .ofList (List.replicate n '/')

def IsStem (t s : String) : Prop :=
  t.toList.getLast? ≠ some '/' ∧ ∃ n, s = t ++ slashes n

def IsRest (r s : String) : Prop :=
  r.toList.head? ≠ some '/' ∧ ∃ n, s = slashes n ++ r

def dropStartSlashes (s : List Char) : List Char :=
  s.dropWhile (· == '/')

theorem toList_slashes (n : Nat) : (slashes n).toList = List.replicate n '/' :=
  String.toList_ofList

theorem replicate_slashes (n : Nat) : ∀ c ∈ List.replicate n '/', (c == '/') = true :=
  fun _ hc => beq_iff_eq.mpr (List.eq_of_mem_replicate hc)

theorem eq_replicate {s : List Char} (h : ∀ c ∈ s, (c == '/') = true) :
    s = List.replicate s.length '/' :=
  List.eq_replicate_of_mem fun c hc => beq_iff_eq.mp (h c hc)

/-! ## At the end -/

theorem dropEndSlashes_idem (s : List Char) : dropEndSlashes (dropEndSlashes s) = dropEndSlashes s :=
  Text.dropEndWhile_idem _ s

theorem join_dropEndSlashes (base endpoint : String) :
    join (.ofList (dropEndSlashes base.toList)) endpoint = join base endpoint := by
  rw [join, String.toList_ofList, dropEndSlashes_idem]
  rfl

theorem dropEndSlashes_subset (s : List Char) : dropEndSlashes s ⊆ s :=
  Text.dropEndWhile_subset _ s

theorem eq_replicate_of_dropEndSlashes {s : List Char} (h : dropEndSlashes s = []) :
    s = List.replicate s.length '/' :=
  eq_replicate (List.rdropWhile_eq_nil_iff.mp h)

theorem dropEndSlashes_append_replicate (s : List Char) (n : Nat) :
    dropEndSlashes (s ++ List.replicate n '/') = dropEndSlashes s :=
  Text.dropEndWhile_append_of_all (replicate_slashes n) s

theorem exists_dropEndSlashes (s : List Char) :
    ∃ n, s = dropEndSlashes s ++ List.replicate n '/' := by
  refine ⟨(s.rtakeWhile (· == '/')).length, ?_⟩
  rw [← eq_replicate fun c hc => List.mem_rtakeWhile_imp (p := (· == '/')) hc]
  exact List.rdropWhile_append_rtakeWhile.symm

theorem getLast?_dropEndSlashes (s : List Char) : (dropEndSlashes s).getLast? ≠ some '/' := by
  intro h
  have hne : dropEndSlashes s ≠ [] := by
    intro hnil
    simp [hnil] at h
  rw [List.getLast?_eq_some_getLast hne, Option.some.injEq] at h
  exact List.rdropWhile_last_not _ s hne (beq_iff_eq.mpr h)

theorem dropEndSlashes_eq_self {s : List Char} (h : s.getLast? ≠ some '/') :
    dropEndSlashes s = s := by
  refine List.rdropWhile_eq_self_iff.mpr ?_
  intro hne hlast
  apply h
  rw [List.getLast?_eq_some_getLast hne, beq_iff_eq.mp hlast]

theorem dropEndSlashes_append_cons {d : Char} (hd : d ≠ '/') (a t : List Char) :
    dropEndSlashes (a ++ d :: t) = a ++ d :: dropEndSlashes t := by
  have hend : dropEndSlashes (a ++ [d]) = a ++ [d] := dropEndSlashes_eq_self (by simpa using hd)
  rw [List.append_cons, dropEndSlashes, Text.dropEndWhile_append hend, ← dropEndSlashes,
    ← List.append_cons]

theorem isStem_iff {t s : String} : IsStem t s ↔ t.toList = dropEndSlashes s.toList := by
  constructor
  · rintro ⟨hend, n, rfl⟩
    rw [String.toList_append, toList_slashes, dropEndSlashes_append_replicate,
      dropEndSlashes_eq_self hend]
  · intro h
    obtain ⟨n, hn⟩ := exists_dropEndSlashes s.toList
    refine ⟨h ▸ getLast?_dropEndSlashes s.toList, n, ?_⟩
    rw [← String.toList_inj, String.toList_append, toList_slashes, h, ← hn]

/-! ## At the start -/

theorem dropStartSlashes_replicate_append (n : Nat) (s : List Char) :
    dropStartSlashes (List.replicate n '/' ++ s) = dropStartSlashes s :=
  List.dropWhile_append_of_pos (replicate_slashes n)

theorem exists_dropStartSlashes (s : List Char) :
    ∃ n, s = List.replicate n '/' ++ dropStartSlashes s := by
  refine ⟨(s.takeWhile (· == '/')).length, ?_⟩
  rw [← eq_replicate fun c hc => List.mem_takeWhile_imp (p := (· == '/')) hc]
  exact List.takeWhile_append_dropWhile.symm

theorem dropStartSlashes_cons {d : Char} (hd : d ≠ '/') (s : List Char) :
    dropStartSlashes (d :: s) = d :: s :=
  List.dropWhile_cons_of_neg (by simpa using hd)

theorem head?_dropStartSlashes (s : List Char) : (dropStartSlashes s).head? ≠ some '/' := by
  intro h
  have hhead := List.head?_dropWhile_not (· == '/') s
  rw [← dropStartSlashes, h] at hhead
  cases hhead

theorem dropStartSlashes_eq_self {s : List Char} (h : s.head? ≠ some '/') :
    dropStartSlashes s = s := by
  cases s with
  | nil => rfl
  | cons d s => exact dropStartSlashes_cons (by simpa using h) s

theorem isRest_iff {r s : String} : IsRest r s ↔ r.toList = dropStartSlashes s.toList := by
  constructor
  · rintro ⟨hstart, n, rfl⟩
    rw [String.toList_append, toList_slashes, dropStartSlashes_replicate_append,
      dropStartSlashes_eq_self hstart]
  · intro h
    obtain ⟨n, hn⟩ := exists_dropStartSlashes s.toList
    refine ⟨h ▸ head?_dropStartSlashes s.toList, n, ?_⟩
    rw [← String.toList_inj, String.toList_append, toList_slashes, h, ← hn]

theorem eq_replicate_or (s : List Char) :
    ∃ n, s = List.replicate n '/' ∨ ∃ d t, d ≠ '/' ∧ s = List.replicate n '/' ++ d :: t := by
  obtain ⟨n, hn⟩ := exists_dropStartSlashes s
  refine ⟨n, ?_⟩
  cases hrest : dropStartSlashes s with
  | nil => exact Or.inl (by rw [hn, hrest, List.append_nil])
  | cons d t =>
    refine Or.inr ⟨d, t, ?_, by rw [← hrest, ← hn]⟩
    rintro rfl
    exact head?_dropStartSlashes s (by rw [hrest]; rfl)

end Portal.Url

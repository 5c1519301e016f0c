import Portal.Proofs.Url.Slashes
import Portal.Url.Address

/-!
# Where a base leads

Scheme, host and port are read before the path. So a text after a slash leads somewhere as soon as
the slash alone does, and it takes marks of its own to bring a query or a fragment. Who asks is said
before the path too: no endpoint adds a user to a base that names nobody.
-/

namespace Portal.Address

/-- Neither a query nor a fragment starts in it. -/
def IsUnmarked (s : List Char) : Prop :=
  '?' ∉ s ∧ '#' ∉ s

instance (s : List Char) : Decidable (IsUnmarked s) := inferInstanceAs (Decidable (_ ∧ _))

/-- What is no part of a URL at its ends. -/
def isEdge (c : Char) : Bool :=
  c.toNat ≤ 0x20

/-- Without what is no part of a URL anywhere. -/
def inner (s : List Char) : List Char :=
  s.filter fun c => c != '\t' && c != '\n' && c != '\r'

def endsAuthority (c : Char) : Bool :=
  isSlash c || c == '?' || c == '#'

/-- Host and port, and who asks them. -/
def authorityOf (s : List Char) : List Char :=
  (s.dropWhile isSlash).takeWhile fun c => !endsAuthority c

/-- Some host is named, and nobody who asks it. -/
def NamesNobody (text : List Char) : Prop :=
  ∃ scheme s, scheme? (cleaned text) = some (scheme, s) ∧ authorityOf s ≠ [] ∧ '@' ∉ authorityOf s

def ofParts? (scheme : Scheme) (authority path : List Char) : Option Address :=
  (port? scheme (hostPort (withoutUser authority)).2).bind fun port =>
    if isHost (hostPort (withoutUser authority)).1 then
      some ⟨scheme, Text.lower (hostPort (withoutUser authority)).1, port, segmentsOf path, none⟩
    else none

/-- What follows the scheme: an authority and a path. -/
def ofRest? (scheme : Scheme) (s : List Char) : Option Address :=
  ofParts? scheme (authorityOf s) ((s.dropWhile isSlash).drop (authorityOf s).length)

theorem IsUnmarked.of_subset {s t : List Char} (h : IsUnmarked t) (hst : s ⊆ t) : IsUnmarked s :=
  ⟨fun hc => h.1 (hst hc), fun hc => h.2 (hst hc)⟩

theorem IsUnmarked.append {s t : List Char} (hs : IsUnmarked s) (ht : IsUnmarked t) :
    IsUnmarked (s ++ t) := by
  simp only [IsUnmarked, List.mem_append, not_or]
  exact ⟨⟨hs.1, ht.1⟩, hs.2, ht.2⟩

/-! ## What is read -/

theorem cleaned_eq (s : List Char) :
    cleaned s = inner (Text.dropEndWhile isEdge (s.dropWhile isEdge)) := rfl

theorem inner_append (s t : List Char) : inner (s ++ t) = inner s ++ inner t :=
  List.filter_append s t

theorem inner_subset (s : List Char) : inner s ⊆ s :=
  List.filter_subset_self s

theorem inner_replicate (n : Nat) : inner (List.replicate n '/') = List.replicate n '/' := by
  rw [inner, List.filter_replicate]
  rfl

theorem isEdge_of_visible {c : Char} (h : 0x20 < c.toNat) : isEdge c = false :=
  decide_eq_false (Nat.not_le.mpr h)

theorem inner_of_visible {s : List Char} (h : ∀ c ∈ s, 0x20 < c.toNat) : inner s = s := by
  rw [inner, List.filter_eq_self]
  intro c hc
  have hlt := h c hc
  simp only [Bool.and_eq_true, bne_iff_ne, ne_eq]
  refine ⟨⟨?_, ?_⟩, ?_⟩ <;> (rintro rfl; exact absurd hlt (by decide))

theorem dropEndWhile_of_visible {s : List Char} (h : ∀ c ∈ s, 0x20 < c.toNat) :
    Text.dropEndWhile isEdge s = s :=
  Text.dropEndWhile_eq_self fun c hc => isEdge_of_visible (h c hc)

theorem cleaned_eq_self {s : List Char} (h : ∀ c ∈ s, 0x20 < c.toNat) : cleaned s = s := by
  have hstart : s.dropWhile isEdge = s := by
    rw [List.dropWhile_eq_self_iff]
    intro hlen
    rw [isEdge_of_visible (h s[0] (List.getElem_mem hlen))]
    exact Bool.false_ne_true
  rw [cleaned_eq, hstart, dropEndWhile_of_visible h, inner_of_visible h]

theorem cleaned_subset (s : List Char) : cleaned s ⊆ s := by
  intro c h
  have hdrop := inner_subset _ h
  exact (List.dropWhile_suffix _).subset (Text.dropEndWhile_subset _ _ hdrop)

theorem exists_of_scheme? {s rest : List Char} {scheme : Scheme}
    (h : scheme? s = some (scheme, rest)) :
    ∃ name, ':' ∉ name ∧ s = name ++ ':' :: rest ∧
      ∀ tail, scheme? (name ++ ':' :: tail) = some (scheme, tail) := by
  unfold scheme? at h
  cases hsplit : Text.splitOnce ':' s with
  | none => simp [hsplit] at h
  | some parts =>
    obtain ⟨name, after⟩ := parts
    obtain ⟨hs, hname⟩ := Text.eq_of_splitOnce hsplit
    simp only [hsplit, Option.bind_eq_bind, Option.bind_some] at h
    have hafter : after = rest := by
      split at h <;> simp_all
    refine ⟨name, hname, hafter ▸ hs, ?_⟩
    intro tail
    rw [scheme?, Text.splitOnce_append_cons hname]
    simp only [Option.bind_eq_bind, Option.bind_some]
    split at h <;> simp_all

theorem rest_subset {s rest : List Char} {scheme : Scheme} (h : scheme? s = some (scheme, rest)) :
    rest ⊆ s := by
  obtain ⟨name, -, rfl, -⟩ := exists_of_scheme? h
  intro c hc
  simp [hc]

theorem takeWhile_authority {s : List Char} (h : '#' ∉ s) :
    (s.takeWhile fun c => !endsAuthority c) = s.takeWhile fun c => !(isSlash c || c == '?') := by
  induction s with
  | nil => rfl
  | cons c s ih =>
    simp only [List.mem_cons, not_or] at h
    have hc : endsAuthority c = (isSlash c || c == '?') := by
      simp [endsAuthority, Ne.symm h.1]
    simp only [List.takeWhile_cons, hc, ih h.2]

theorem ofChars?_eq {text : List Char} (h : IsUnmarked text) :
    ofChars? text = (scheme? (cleaned text)).bind fun p => ofRest? p.1 p.2 := by
  unfold ofChars?
  cases hscheme : scheme? (cleaned text) with
  | none => rfl
  | some found =>
    obtain ⟨scheme, s⟩ := found
    have hs : IsUnmarked (s.dropWhile isSlash) := by
      apply h.of_subset
      intro c hc
      exact cleaned_subset text (rest_subset hscheme ((List.dropWhile_suffix _).subset hc))
    have hpath : '?' ∉ (s.dropWhile isSlash).drop (authorityOf s).length :=
      fun hc => hs.1 (List.mem_of_mem_drop hc)
    unfold ofRest? ofParts?
    unfold authorityOf at hpath ⊢
    rw [takeWhile_authority hs.2] at hpath
    simp only [takeWhile_authority hs.2, Option.bind_eq_bind, Option.bind_some,
      Text.takeWhile_of_not_mem hs.2, Text.takeWhile_of_not_mem hpath, List.drop_length]
    congr 1
    funext port
    split <;> simp_all

theorem query_of_ofParts? {scheme : Scheme} {authority path : List Char} {a : Address}
    (h : ofParts? scheme authority path = some a) : a.query = none := by
  obtain ⟨port, -, h⟩ := Option.bind_eq_some_iff.mp h
  split at h
  · cases h
    rfl
  · cases h

theorem query_eq_none {text : List Char} {a : Address} (hmark : IsUnmarked text)
    (h : ofChars? text = some a) : a.query = none := by
  rw [ofChars?_eq hmark] at h
  obtain ⟨p, -, h⟩ := Option.bind_eq_some_iff.mp h
  exact query_of_ofParts? h

/-! ## What is appended -/

theorem isSome_ofParts? {scheme : Scheme} {authority path : List Char}
    (h : (ofParts? scheme authority path).isSome) (path' : List Char) :
    (ofParts? scheme authority path').isSome := by
  unfold ofParts? at h ⊢
  cases hport : port? scheme (hostPort (withoutUser authority)).2 with
  | none => simp [hport] at h
  | some port =>
    simp only [hport, Option.bind_some] at h ⊢
    split <;> simp_all

theorem ofParts?_nil (scheme : Scheme) (path : List Char) : ofParts? scheme [] path = none := rfl

theorem dropWhile_append_slash (s path : List Char) :
    (s ++ '/' :: path).dropWhile isEdge = s.dropWhile isEdge ++ '/' :: path := by
  rw [List.dropWhile_append]
  split
  · next hnil => rw [List.isEmpty_iff.mp hnil]; rfl
  · rfl

theorem cleaned_append_slash (s path : List Char) :
    cleaned (s ++ '/' :: path) =
      inner (s.dropWhile isEdge) ++ '/' :: inner (Text.dropEndWhile isEdge path) := by
  have hend : Text.dropEndWhile isEdge ('/' :: path) = '/' :: Text.dropEndWhile isEdge path :=
    Text.dropEndWhile_append (a := ['/']) rfl path
  rw [cleaned_eq, dropWhile_append_slash, Text.dropEndWhile_append_of_ne_nil (by simp [hend]), hend,
    inner_append]
  rfl

theorem scheme?_append {s rest : List Char} {scheme : Scheme}
    (h : scheme? s = some (scheme, rest)) (t : List Char) :
    scheme? (s ++ t) = some (scheme, rest ++ t) := by
  obtain ⟨name, -, rfl, hall⟩ := exists_of_scheme? h
  rw [List.append_assoc, List.cons_append]
  exact hall (rest ++ t)

theorem scheme?_of_append {s t rest : List Char} {scheme : Scheme} (ht : ':' ∉ t)
    (h : scheme? (s ++ t) = some (scheme, rest)) :
    ∃ r, rest = r ++ t ∧ scheme? s = some (scheme, r) := by
  obtain ⟨name, -, hs, hall⟩ := exists_of_scheme? h
  rcases List.append_eq_append_iff.mp hs with ⟨before, -, rfl⟩ | ⟨r, rfl, hr⟩
  · exact absurd (by simp) ht
  · cases r with
    | nil => exact absurd (by simp [← List.nil_append t ▸ hr]) ht
    | cons c r =>
      obtain ⟨rfl, rfl⟩ := List.cons.inj hr
      exact ⟨r, rfl, hall r⟩

theorem dropWhile_ne_nil_of_authorityOf {s : List Char} (h : authorityOf s ≠ []) :
    s.dropWhile isSlash ≠ [] := by
  intro hnil
  rw [authorityOf, hnil] at h
  exact h rfl

theorem exists_authorityOf_append {s : List Char} (h : s.dropWhile isSlash ≠ []) (t : List Char) :
    ∃ u, authorityOf (s ++ t) = authorityOf s ++ u ∧ u ⊆ t ∧ (t.head? = some '/' → u = []) := by
  rw [authorityOf, List.dropWhile_append, if_neg (by simpa using h), List.takeWhile_append]
  split
  · next hall =>
    refine ⟨t.takeWhile fun c => !endsAuthority c, ?_, List.takeWhile_subset _, ?_⟩
    · rw [authorityOf, (List.takeWhile_prefix _).eq_of_length hall]
    · intro hslash
      obtain ⟨rest, rfl⟩ := List.head?_eq_some_iff.mp hslash
      rfl
  · exact ⟨[], (List.append_nil _).symm, List.nil_subset _, fun _ => rfl⟩

theorem authorityOf_append {s t : List Char} (h : s.dropWhile isSlash ≠ [])
    (ht : t.head? = some '/') : authorityOf (s ++ t) = authorityOf s := by
  obtain ⟨u, hu, -, hnil⟩ := exists_authorityOf_append h t
  rw [hu, hnil ht, List.append_nil]

theorem authorityOf_exchange {s : List Char} (n : Nat) (path : List Char)
    (h : authorityOf (s ++ List.replicate n '/') ≠ []) :
    authorityOf (s ++ '/' :: path) = authorityOf (s ++ List.replicate n '/') := by
  have hs : s.dropWhile isSlash ≠ [] := by
    intro hnil
    have hslash : ∀ c ∈ List.replicate n '/', isSlash c = true :=
      fun c hc => List.eq_of_mem_replicate hc ▸ rfl
    have hall : (s ++ List.replicate n '/').dropWhile isSlash = [] := by
      rw [List.dropWhile_append, hnil, List.isEmpty_nil, if_pos rfl,
        List.dropWhile_eq_nil_iff.mpr hslash]
    exact dropWhile_ne_nil_of_authorityOf h hall
  cases n with
  | zero => rw [authorityOf_append hs rfl, List.replicate_zero, List.append_nil]
  | succ n => rw [authorityOf_append hs rfl, authorityOf_append hs rfl]

theorem isSome_ofRest?_append {scheme : Scheme} {s : List Char}
    (h : (ofRest? scheme (s ++ ['/'])).isSome) (path : List Char) :
    (ofRest? scheme (s ++ '/' :: path)).isSome := by
  unfold ofRest? at h ⊢
  have hauthority : authorityOf (s ++ ['/']) ≠ [] := by
    intro hnil
    rw [hnil, ofParts?_nil] at h
    cases h
  rw [authorityOf_exchange 1 path hauthority]
  exact isSome_ofParts? h _

theorem isSome_ofChars?_append {s path : List Char} (hs : IsUnmarked s)
    (hpath : IsUnmarked ('/' :: path)) (hplain : ∀ c ∈ path, 0x20 < c.toNat)
    (h : (ofChars? (s ++ ['/'])).isSome) : (ofChars? (s ++ '/' :: path)).isSome := by
  have hclean : cleaned (s ++ '/' :: path) = inner (s.dropWhile isEdge) ++ '/' :: path := by
    rw [cleaned_append_slash, dropEndWhile_of_visible hplain, inner_of_visible hplain]
  rw [ofChars?_eq (hs.append (by decide)), cleaned_append_slash] at h
  rw [ofChars?_eq (hs.append hpath), hclean]
  obtain ⟨a, ha⟩ := Option.isSome_iff_exists.mp h
  obtain ⟨⟨scheme, rest⟩, hscheme, hrest⟩ := Option.bind_eq_some_iff.mp ha
  obtain ⟨r, rfl, hstem⟩ := scheme?_of_append (by decide) hscheme
  rw [scheme?_append hstem]
  exact isSome_ofRest?_append (Option.isSome_of_mem hrest) path

/-! ## Who asks -/

theorem exists_cleaned_append (s : List Char) :
    ∃ w, inner (s.dropWhile isEdge) = cleaned s ++ w ∧ ∀ c ∈ w, isEdge c = true := by
  refine ⟨inner ((s.dropWhile isEdge).rtakeWhile isEdge), ?_, ?_⟩
  · rw [cleaned_eq, ← inner_append, Text.dropEndWhile_eq_rdropWhile,
      List.rdropWhile_append_rtakeWhile]
  · intro c hc
    exact List.mem_rtakeWhile_imp (inner_subset _ hc)

theorem inner_append_replicate (s : List Char) (n : Nat) :
    inner ((s ++ List.replicate n '/').dropWhile isEdge) =
      inner (s.dropWhile isEdge) ++ List.replicate n '/' := by
  cases n with
  | zero => simp only [List.replicate_zero, List.append_nil]
  | succ n =>
    rw [List.replicate_succ, dropWhile_append_slash, inner_append, ← List.replicate_succ,
      inner_replicate]

theorem NamesNobody.join {base : String} (h : NamesNobody base.toList) (endpoint : String) :
    NamesNobody (Url.join base endpoint).toList := by
  obtain ⟨scheme, s, hscheme, hne, hnobody⟩ := h
  obtain ⟨n, hbase⟩ := Url.exists_dropEndSlashes base.toList
  obtain ⟨w, hw, hedge⟩ := exists_cleaned_append base.toList
  -- The blanks at the end of the base, and what is left of it without them and its last slashes.
  have hopen := scheme?_append hscheme w
  rw [← hw, hbase, inner_append_replicate] at hopen
  obtain ⟨r, hr, hstem⟩ := scheme?_of_append (by simp) hopen
  obtain ⟨u, hu, hsub, -⟩ := exists_authorityOf_append (dropWhile_ne_nil_of_authorityOf hne) w
  rw [hr] at hu
  have hfull : authorityOf (r ++ List.replicate n '/') ≠ [] := by
    rw [hu]
    exact List.append_ne_nil_of_left_ne_nil hne u
  let path := inner (Text.dropEndWhile isEdge (endpoint.toList.dropWhile (· == '/')))
  refine ⟨scheme, r ++ '/' :: path, ?_, ?_⟩
  · rw [Url.join, String.toList_ofList, cleaned_append_slash]
    exact scheme?_append hstem _
  · rw [authorityOf_exchange n _ hfull, hu]
    refine ⟨hu ▸ hfull, ?_⟩
    rw [List.mem_append, not_or]
    refine ⟨hnobody, fun hat => ?_⟩
    exact absurd (hedge _ (hsub hat)) (by decide)

end Portal.Address

import Portal.Proofs.Url.Dots
import Portal.Proofs.Url.Reach
import Portal.Proofs.Url.Slashes

/-!
# Base addresses

A base address is a scheme, a host and a root below which the portal answers. What is appended to it
is read as the path, after the root.
-/

namespace Portal

def Scheme.chars : Scheme → List Char
  | .http => ['h', 't', 't', 'p']
  | .https => ['h', 't', 't', 'p', 's']

/-- The host may come with a port. The root is made of letters, digits, `-` and slashes. -/
structure BaseUrl where
  scheme : Scheme
  host : List Char
  root : List Char
  host_chars : ∀ c ∈ host, 0x20 < c.toNat ∧ c ∉ ['/', '\\', '?', '#', '@']
  host_reads : Address.isHost (Address.hostPort host).1 = true ∧
    (Address.port? scheme (Address.hostPort host).2).isSome = true
  root_chars : ∀ c ∈ root, c.isAlphanum = true ∨ c = '-' ∨ c = '/'
  root_starts : ∀ c ∈ root.head?, c = '/'

namespace BaseUrl

open Address (cleaned isSlash isEscapedInPath segmentsOf)
open Url (IsDots IsPlain)

/-- Scheme and host, up to where a path starts. -/
def front (b : BaseUrl) : List Char :=
  b.scheme.chars ++ ':' :: '/' :: '/' :: b.host

def text (b : BaseUrl) : String :=
  .ofList (b.front ++ b.root)

/-- The root without the slashes at its end. -/
def trunk (b : BaseUrl) : List Char :=
  Url.dropEndSlashes b.root

def rootPieces (b : BaseUrl) : List (List Char) :=
  match b.trunk with
  | [] => []
  | _ :: r => Text.pieces '/' r

variable (b : BaseUrl)

/-! ## Its characters -/

theorem host_ne_nil : b.host ≠ [] := by
  intro h
  have hhost := b.host_reads.1
  rw [h] at hhost
  exact absurd hhost (by decide)

theorem not_mem_host {d : Char} (hd : d ∈ ['/', '\\', '?', '#', '@']) : d ∉ b.host := by
  intro h
  exact (b.host_chars d h).2 hd

theorem isAlphanum_lt {c : Char} (h : c.isAlphanum = true) : c.toNat < 0x80 := by
  have hlast : c.val ≤ 'Z'.val ∨ c.val ≤ 'z'.val ∨ c.val ≤ '9'.val := by
    rcases Bool.or_eq_true_iff.mp h with h | h
    · rcases Bool.or_eq_true_iff.mp h with h | h
      · exact Or.inl (of_decide_eq_true h).2
      · exact Or.inr (Or.inl (of_decide_eq_true (Bool.and_eq_true_iff.mp h).2))
    · exact Or.inr (Or.inr (of_decide_eq_true (Bool.and_eq_true_iff.mp h).2))
  rcases hlast with h | h | h <;> exact Nat.lt_of_le_of_lt (UInt32.le_iff_toNat_le.mp h) (by decide)

theorem isPlain_of_root_char {c : Char} (hlt : c.toNat < 0x80)
    (h : c.isAlphanum = true ∨ c = '-' ∨ c = '/') :
    IsPlain c ∧ c ≠ '.' ∧ (c ≠ '/' → Url.isEscapedInSegment c = false) := by
  revert c
  apply Url.ascii_all
  decide

theorem isPlain_root {c : Char} (h : c ∈ b.root) :
    IsPlain c ∧ c ≠ '.' ∧ (c ≠ '/' → Url.isEscapedInSegment c = false) := by
  have hlt : c.toNat < 0x80 := by
    rcases b.root_chars c h with hc | rfl | rfl
    · exact isAlphanum_lt hc
    · decide
    · decide
  exact isPlain_of_root_char hlt (b.root_chars c h)

theorem scheme_chars : ∀ c ∈ b.scheme.chars, 0x20 < c.toNat := by
  cases b.scheme <;> simp [Scheme.chars]

theorem front_chars {c : Char} (h : c ∈ b.front) : 0x20 < c.toNat := by
  simp only [front, List.mem_append, List.mem_cons] at h
  rcases h with h | rfl | rfl | rfl | h
  · exact b.scheme_chars c h
  · decide
  · decide
  · decide
  · exact (b.host_chars c h).1

/-! ## Slashes at its end -/

theorem dropEndSlashes_front (s : List Char) :
    Url.dropEndSlashes (b.front ++ s) = b.front ++ Url.dropEndSlashes s := by
  apply Text.dropEndWhile_append
  apply Url.dropEndSlashes_eq_self
  have hlast : b.front.getLast? = some (b.host.getLast b.host_ne_nil) := by
    simp [front, b.host_ne_nil, List.getLast?_eq_some_getLast]
  rw [hlast, ne_eq, Option.some.injEq]
  intro hslash
  exact b.not_mem_host (by decide) (hslash ▸ List.getLast_mem b.host_ne_nil)

theorem dropEndSlashes_trunk : Url.dropEndSlashes b.trunk = b.trunk :=
  Url.dropEndSlashes_idem b.root

/-! ## Reading it -/

theorem scheme?_chars (scheme : Scheme) (s : List Char) :
    Address.scheme? (scheme.chars ++ ':' :: s) = some (scheme, s) := by
  cases scheme <;> rfl

theorem isSlash_host {c : Char} (h : c ∈ b.host) : isSlash c = false := by
  have hslash : c ≠ '/' := fun hc => b.not_mem_host (by decide) (hc ▸ h)
  have hback : c ≠ '\\' := fun hc => b.not_mem_host (by decide) (hc ▸ h)
  simp [isSlash, hslash, hback]

theorem dropWhile_slashes (path : List Char) :
    ('/' :: '/' :: (b.host ++ path)).dropWhile isSlash = b.host ++ path := by
  obtain ⟨c, s, hs⟩ := List.exists_cons_of_ne_nil b.host_ne_nil
  have hc : isSlash c = false := b.isSlash_host (by rw [hs]; exact List.mem_cons_self)
  rw [List.dropWhile_cons_of_pos rfl, List.dropWhile_cons_of_pos rfl, hs, List.cons_append,
    List.dropWhile_cons_of_neg (by simp [hc])]

theorem takeWhile_host {path : List Char} (hstart : path.head? = some '/') :
    (b.host ++ path).takeWhile (fun c => !(isSlash c || c == '?')) = b.host := by
  obtain ⟨s, rfl⟩ : ∃ s, path = '/' :: s := by
    cases path with
    | nil => simp at hstart
    | cons c s => exact ⟨s, by simpa using hstart⟩
  rw [List.takeWhile_append_of_pos, List.takeWhile_cons_of_neg (by decide), List.append_nil]
  intro c hc
  have hquery : c ≠ '?' := fun hd => b.not_mem_host (by decide) (hd ▸ hc)
  simp [b.isSlash_host hc, hquery]

theorem withoutUser_host : Address.withoutUser b.host = b.host := by
  have hat : '@' ∉ b.host.reverse := by
    rw [List.mem_reverse]
    exact b.not_mem_host (by decide)
  rw [Address.withoutUser, Text.splitOnce_of_not_mem hat]

theorem not_mem_of_plain {d : Char} (hd : ¬ IsPlain d) {path : List Char}
    (hpath : ∀ c ∈ path, IsPlain c) : d ∉ path := by
  intro h
  exact hd (hpath d h)

theorem ofChars?_front {path : List Char} (hpath : ∀ c ∈ path, IsPlain c)
    (hstart : path.head? = some '/') :
    ∃ a, Address.ofChars? (b.front ++ path) = some a ∧ a.segments = segmentsOf path ∧
      a.query = none := by
  -- What follows the host is the path, as long as it holds no mark that ends one.
  have hclean : cleaned (b.front ++ path) = b.front ++ path := by
    apply Address.cleaned_eq_self
    intro c hc
    rcases List.mem_append.mp hc with hc | hc
    · exact b.front_chars hc
    · exact (hpath c hc).1
  have hscheme : Address.scheme? (b.front ++ path) =
      some (b.scheme, '/' :: '/' :: (b.host ++ path)) := by
    rw [front, List.append_assoc]
    exact scheme?_chars b.scheme _
  have hfragment : (b.host ++ path).takeWhile (· != '#') = b.host ++ path := by
    apply Text.takeWhile_of_not_mem
    rw [List.mem_append, not_or]
    exact ⟨b.not_mem_host (by decide), not_mem_of_plain (by decide) hpath⟩
  have hquery : path.takeWhile (· != '?') = path :=
    Text.takeWhile_of_not_mem (not_mem_of_plain (by decide) hpath)
  obtain ⟨port, hport⟩ := Option.isSome_iff_exists.mp b.host_reads.2
  unfold Address.ofChars?
  rw [hclean, hscheme]
  simp only [Option.bind_eq_bind, Option.bind_some, b.dropWhile_slashes, hfragment,
    b.takeWhile_host hstart, b.withoutUser_host, List.drop_left, hquery, List.drop_length, hport,
    b.host_reads.1]
  exact ⟨_, rfl, rfl, rfl⟩

/-! ## The segments of its paths -/

theorem segmentsOf_plain {path : List Char} (h : ∀ c ∈ path, IsPlain c) :
    segmentsOf path = Address.resolve (Text.pieces '/' (path.drop 1)) := by
  have hback : path.map (fun c => if c = '\\' then '/' else c) = path := by
    conv_rhs => rw [← List.map_id path]
    apply List.map_congr_left
    intro c hc
    exact if_neg (h c hc).2.2.1
  have hencode : ∀ p ∈ Text.pieces '/' (path.drop 1), Percent.encode isEscapedInPath p = p := by
    intro p hp
    apply Percent.encode_eq_self
    intro c hc
    have hplain := h c (List.mem_of_mem_drop (Text.mem_of_mem_pieces hp hc))
    exact ⟨hplain.2.1, hplain.2.2.2⟩
  rw [segmentsOf]
  simp only [hback]
  rw [List.map_congr_left hencode, List.map_id']

theorem trunk_prefix : b.trunk <+: b.root :=
  List.rdropWhile_prefix _ _

theorem mem_trunk_of_mem_rootPieces {p : List Char} {c : Char} (hp : p ∈ b.rootPieces)
    (hc : c ∈ p) : c ∈ b.root ∧ c ≠ '/' := by
  unfold rootPieces at hp
  split at hp
  · simp at hp
  · next d r hr =>
    refine ⟨b.trunk_prefix.subset ?_, ?_⟩
    · rw [hr]
      exact List.mem_cons_of_mem d (Text.mem_of_mem_pieces hp hc)
    · rintro rfl
      exact Text.not_mem_of_mem_pieces hp hc

theorem map_segmentChars_rootPieces : b.rootPieces.map Url.segmentChars = b.rootPieces := by
  have hself : ∀ p ∈ b.rootPieces, Url.segmentChars p = p := by
    intro p hp
    apply Percent.encode_eq_self
    intro c hc
    obtain ⟨hroot, hslash⟩ := b.mem_trunk_of_mem_rootPieces hp hc
    obtain ⟨hplain, -, hkept⟩ := b.isPlain_root hroot
    exact ⟨hplain.2.1, hkept hslash⟩
  rw [List.map_congr_left hself, List.map_id']

theorem rootPieces_not_dots {p : List Char} (hp : p ∈ b.rootPieces) : ¬ IsDots p := by
  have hdot : '.' ∉ p := by
    intro hc
    exact (b.isPlain_root (b.mem_trunk_of_mem_rootPieces hp hc).1).2.1 rfl
  rintro (rfl | rfl) <;> simp at hdot

theorem pieces_trunk_append (s : List Char) :
    Text.pieces '/' ((b.trunk ++ '/' :: s).drop 1) = b.rootPieces ++ Text.pieces '/' s := by
  unfold rootPieces
  cases b.trunk with
  | nil => rfl
  | cons d r => exact Text.pieces_append_cons r s

/-! ## Endpoints -/

theorem dropEndSlashes_text : Url.dropEndSlashes b.text.toList = b.front ++ b.trunk := by
  rw [text, String.toList_ofList, dropEndSlashes_front]
  rfl

theorem head?_trunk_append (s : List Char) : (b.trunk ++ '/' :: s).head? = some '/' := by
  cases ht : b.trunk with
  | nil => rfl
  | cons d r =>
    obtain ⟨tail, hroot⟩ := b.trunk_prefix
    have hd : d = '/' := b.root_starts d (by simp [← hroot, ht])
    simp [hd]

theorem dropWhile_slash_joined {w : List Char} (hw : w ≠ []) (ws : List (List Char)) :
    (Text.joined '/' ((w :: ws).map Url.segmentChars)).dropWhile (· == '/') =
      Text.joined '/' ((w :: ws).map Url.segmentChars) := by
  obtain ⟨c, s, hs⟩ := List.exists_cons_of_ne_nil (Url.segmentChars_ne_nil hw)
  have hc : c ≠ '/' := (Url.isPlain_of_mem_segmentChars (by rw [hs]; exact List.mem_cons_self)).2
  obtain ⟨r, hr⟩ : ∃ r, Text.joined '/' ((w :: ws).map Url.segmentChars) = c :: r := by
    cases ws with
    | nil => exact ⟨s, hs⟩
    | cons v vs =>
      refine ⟨s ++ '/' :: Text.joined '/' ((v :: vs).map Url.segmentChars), ?_⟩
      rw [List.map_cons, Text.joined_cons (by simp), hs]
      rfl
  rw [hr, List.dropWhile_cons_of_neg (by simpa using hc)]

/-- Where an endpoint of some segments leads. The first one has to have a name, so that the endpoint
starts with one slash only. -/
theorem address_of_endpoint {base endpoint : String} {w : List Char} {ws : List (List Char)}
    (hbase : base.toList = b.front ++ b.trunk) (hw : w ≠ [])
    (hendpoint : endpoint.toList = '/' :: Text.joined '/' ((w :: ws).map Url.segmentChars)) :
    ∃ a, Address.ofString? (Url.join base endpoint) = some a ∧
      a.segments = Address.resolve ((b.rootPieces ++ w :: ws).map Url.segmentChars) ∧
      a.query = none := by
  have hsegments : ∀ p ∈ (w :: ws).map Url.segmentChars, ∀ c ∈ p, IsPlain c ∧ c ≠ '/' := by
    intro p hp c hc
    obtain ⟨t, -, rfl⟩ := List.mem_map.mp hp
    exact Url.isPlain_of_mem_segmentChars hc
  have hpieces : Text.pieces '/' (Text.joined '/' ((w :: ws).map Url.segmentChars)) =
      (w :: ws).map Url.segmentChars :=
    Text.pieces_joined (by simp) fun p hp hslash => (hsegments p hp '/' hslash).2 rfl
  have hplain : ∀ c ∈ b.trunk ++ '/' :: Text.joined '/' ((w :: ws).map Url.segmentChars),
      IsPlain c := by
    intro c hc
    rcases List.mem_append.mp hc with hc | hc
    · exact (b.isPlain_root (b.trunk_prefix.subset hc)).1
    rcases List.mem_cons.mp hc with rfl | hc
    · decide
    rcases Text.mem_joined hc with rfl | ⟨p, hp, hc⟩
    · decide
    · exact (hsegments p hp c hc).1
  have htext : (Url.join base endpoint).toList =
      b.front ++ (b.trunk ++ '/' :: Text.joined '/' ((w :: ws).map Url.segmentChars)) := by
    rw [Url.join, String.toList_ofList, hbase, hendpoint, b.dropEndSlashes_front,
      b.dropEndSlashes_trunk, List.dropWhile_cons_of_pos (by rfl), dropWhile_slash_joined hw,
      List.append_assoc]
  obtain ⟨a, ha, hpath, hquery⟩ := b.ofChars?_front hplain (b.head?_trunk_append _)
  refine ⟨a, ?_, ?_, hquery⟩
  · rw [Address.ofString?, htext, ha]
  · rw [hpath, segmentsOf_plain hplain, pieces_trunk_append, hpieces, List.map_append,
      b.map_segmentChars_rootPieces]

end BaseUrl

end Portal

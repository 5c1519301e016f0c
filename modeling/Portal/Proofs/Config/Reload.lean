import Portal.Proofs.Config.Resolution
import Portal.Proofs.Url.Slashes

/-!
# A loaded configuration loads again

The address is looked at before its last slashes fall off. Where nothing but slashes follows the
scheme, the two of the scheme fall off as well, and what is left would not be taken again. Every
other configuration stands for itself.
-/

namespace Portal

open Sources (IsHttp)

/-- A scheme and nothing but slashes. -/
def IsBare (url : String) : Prop :=
  ∃ scheme ∈ ["http:", "https:"], ∃ n, url.toList = scheme.toList ++ List.replicate n '/'

namespace ClientConfig

/-- A configuration as what a caller gives. -/
def asGiven (c : ClientConfig) : Settings :=
  ⟨some c.baseUrl, c.apiKey, some c.verifyTls, some c.timeout⟩

/-- The address can be asked, and the configuration loads as itself where nobody else says
anything. -/
structure IsUsable (c : ClientConfig) : Prop where
  isHttp : IsHttp c.baseUrl
  no_end_slash : c.baseUrl.toList.getLast? ≠ some '/'
  reloads : ∀ files candidates, (∀ path ∈ candidates, files path = none) →
    resolve c.asGiven (fun _ => none) files candidates = .ok c

/-! ## Slashes at the end -/

theorem dropEndSlashes_scheme {scheme : String} (h : scheme ∈ ["http:", "https:"])
    (rest : List Char) :
    Url.dropEndSlashes (scheme.toList ++ rest) = scheme.toList ++ Url.dropEndSlashes rest := by
  apply Text.dropEndWhile_append
  revert scheme
  simp only [List.mem_cons, List.not_mem_nil, or_false, forall_eq_or_imp, forall_eq]
  decide

/-! ## Addresses -/

theorem isHttp_iff_scheme (url : String) :
    IsHttp url ↔ ∃ scheme ∈ ["http:", "https:"], ∃ rest,
      url.toList = scheme.toList ++ ('/' :: '/' :: rest) := by
  simp only [IsHttp, List.mem_cons, List.not_mem_nil, or_false, exists_eq_or_imp,
    exists_eq_left]
  constructor
  · rintro (⟨rest, h⟩ | ⟨rest, h⟩)
    · exact Or.inl ⟨rest, h.symm⟩
    · exact Or.inr ⟨rest, h.symm⟩
  · rintro (⟨rest, h⟩ | ⟨rest, h⟩)
    · exact Or.inl ⟨rest, h.symm⟩
    · exact Or.inr ⟨rest, h.symm⟩

theorem dropEndSlashes_of_isBare {url : String} (h : IsBare url) :
    String.ofList (Url.dropEndSlashes url.toList) ∈ ["http:", "https:"] := by
  obtain ⟨scheme, hscheme, n, hurl⟩ := h
  have hslashes : Url.dropEndSlashes (List.replicate n '/') = [] :=
    Url.dropEndSlashes_append_replicate [] n
  rw [hurl, dropEndSlashes_scheme hscheme, hslashes, List.append_nil, String.ofList_toList]
  exact hscheme

theorem isHttp_dropEndSlashes_iff {url : String} (h : IsHttp url) :
    IsHttp (.ofList (Url.dropEndSlashes url.toList)) ↔ ¬ IsBare url := by
  -- The slashes of the scheme stay just when something else follows them.
  constructor
  · intro hhttp hbare
    rcases List.mem_cons.mp (dropEndSlashes_of_isBare hbare) with hs | hs
    · rw [hs] at hhttp
      exact absurd hhttp (by decide)
    · rw [List.mem_singleton.mp hs] at hhttp
      exact absurd hhttp (by decide)
  · intro hbare
    obtain ⟨scheme, hscheme, rest, hurl⟩ := (isHttp_iff_scheme url).mp h
    have hrest : Url.dropEndSlashes rest ≠ [] := by
      intro hnil
      refine hbare ⟨scheme, hscheme, rest.length + 2, ?_⟩
      rw [hurl, Url.eq_replicate_of_dropEndSlashes hnil, List.length_replicate]
      rfl
    rw [isHttp_iff_scheme]
    refine ⟨scheme, hscheme, Url.dropEndSlashes rest, ?_⟩
    have hall : url.toList = (scheme.toList ++ ['/', '/']) ++ rest := by simp [hurl]
    rw [String.toList_ofList, hall, Url.dropEndSlashes, Text.dropEndWhile_append_of_ne_nil hrest]
    simp [Url.dropEndSlashes]

/-! ## Loading -/

theorem isHttp_of_resolve {s : Sources} {c : ClientConfig} (h : s.resolve = .ok c) :
    IsHttp s.url := by
  have hurl : s.urlFault? = none :=
    List.findSome?_eq_none_iff.mp (s.config_of_resolve h).1 s.urlFault? (by simp)
  by_contra hn
  rw [Sources.urlFault?, if_neg hn] at hurl
  cases hurl

theorem firstFile_eq_none {files : String → Option Entry} {candidates : List String}
    (h : ∀ path ∈ candidates, files path = none) : Sources.firstFile files candidates = none := by
  refine List.findSome?_eq_none_iff.mpr fun path hpath => ?_
  rw [h path hpath]
  rfl

theorem resolve_asGiven {c : ClientConfig} (hhttp : IsHttp c.baseUrl)
    (hend : c.baseUrl.toList.getLast? ≠ some '/')
    (hkey : c.apiKey.filter (fun k => !Text.isBlankText k) = c.apiKey)
    {files : String → Option Entry} {candidates : List String}
    (hfiles : ∀ path ∈ candidates, files path = none) :
    resolve c.asGiven (fun _ => none) files candidates = .ok c := by
  -- With nobody else to say anything, a configuration is taken as it is given.
  let alone : Sources := ⟨c.asGiven, fun _ => none, files, candidates⟩
  have hfile : alone.file? = none := by
    rw [Sources.file?, firstFile_eq_none hfiles, ite_self]
  have hfrom : alone.fromFile = .empty := by rw [Sources.fromFile, hfile]; rfl
  have hkeep : alone.key? = c.apiKey := by
    rw [Sources.key?, hfrom]
    change Sources.first [c.apiKey, none, none] = c.apiKey
    cases c.apiKey <;> rfl
  have hurl : alone.url = c.baseUrl := rfl
  have hconfig : alone.config = c := by
    have hbase : String.ofList (Url.dropEndSlashes c.baseUrl.toList) = c.baseUrl := by
      rw [Url.dropEndSlashes_eq_self hend, String.ofList_toList]
    rw [Sources.config, hkeep, hkey]
    exact congrArg (fun b => ClientConfig.mk b c.apiKey c.timeout c.verifyTls) hbase
  have hfault : alone.fault? = none := by
    rw [Sources.fault?, Sources.fileFault?, hfile, Sources.urlFault?, hurl, if_pos hhttp]
    rfl
  change alone.resolve = .ok c
  rw [alone.resolve_eq_result, Sources.result, hfault, hconfig]

/-- A loaded configuration is usable exactly when its address was more than a scheme and slashes.
It never ends with a slash. -/
theorem loaded_isUsable_iff (s : Sources) (c : ClientConfig) (h : s.resolve = .ok c) :
    (c.IsUsable ↔ ¬ IsBare s.url) ∧ c.baseUrl.toList.getLast? ≠ some '/' := by
  have hhttp := isHttp_of_resolve h
  obtain ⟨-, rfl⟩ := s.config_of_resolve h
  have hbase : s.config.baseUrl = .ofList (Url.dropEndSlashes s.url.toList) := rfl
  have hend : s.config.baseUrl.toList.getLast? ≠ some '/' := by
    rw [hbase, String.toList_ofList]
    exact Url.getLast?_dropEndSlashes s.url.toList
  rw [← isHttp_dropEndSlashes_iff hhttp, ← hbase]
  refine ⟨⟨IsUsable.isHttp, ?_⟩, hend⟩
  intro hkept
  refine ⟨hkept, hend, ?_⟩
  intro files candidates hfiles
  refine resolve_asGiven hkept hend ?_ hfiles
  simp [Sources.config, Option.filter_filter]

/-- Slashes after the scheme and at the end, and a name between them. -/
def slashed : Sources where
  given := ⟨none, some "k-1", some true, some (.ofSeconds 5)⟩
  env
    | "BLACKLAKE_URL" => some "https:////lake//"
    | _ => none
  files _ := none
  candidates := []

theorem resolve_slashed :
    slashed.resolve = .ok ⟨"https:////lake", some "k-1", .ofSeconds 5, true⟩ := rfl

theorem not_isBare_slashed : ¬ IsBare slashed.url := by
  rintro ⟨scheme, hscheme, n, hurl⟩
  have hk : 'k' ∈ slashed.url.toList := by decide
  rw [hurl, List.mem_append, List.mem_replicate] at hk
  rcases hk with hk | ⟨-, hk⟩
  · revert hk
    rcases List.mem_cons.mp hscheme with rfl | hscheme
    · decide
    · rw [List.mem_singleton.mp hscheme]
      decide
  · exact absurd hk (by decide)

theorem slashed_loads_usable :
    slashed.resolve = .ok ⟨"https:////lake", some "k-1", .ofSeconds 5, true⟩ ∧
      IsUsable ⟨"https:////lake", some "k-1", .ofSeconds 5, true⟩ :=
  ⟨resolve_slashed, (loaded_isUsable_iff slashed _ resolve_slashed).1.mpr not_isBare_slashed⟩

/-- A bare scheme loads, and what it loads as does not. -/
theorem bare_loads_unusable :
    Sources.resolve ⟨⟨some "http://", none, none, none⟩, fun _ => none, fun _ => none, []⟩ =
        .ok ⟨"http:", none, .ofSeconds 30, true⟩ ∧
      resolve (asGiven ⟨"http:", none, .ofSeconds 30, true⟩) (fun _ => none) (fun _ => none) [] =
        .error (.notHttp "http:") ∧
      ¬ IsUsable ⟨"http:", none, .ofSeconds 30, true⟩ := by
  refine ⟨rfl, rfl, ?_⟩
  intro h
  exact absurd h.isHttp (by decide)

end ClientConfig

end Portal

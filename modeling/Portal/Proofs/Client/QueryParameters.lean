import Portal.Proofs.Client.PathArguments
import Portal.Proofs.Url.Form
import Portal.Proofs.Url.Reach

/-!
# Arguments in a query

What an operation asks for beside its path stands in the query, each argument under its own name. An
argument never ends its value, so the query says these pairs and nothing else.
-/

namespace Portal

/-- An empty filter is no filter. -/
def SearchQuery.withoutEmpty (q : SearchQuery) : SearchQuery :=
  { q with repo := q.repo.filter (· ≠ ""), classification := q.classification.filter (· ≠ "") }

namespace Operation

def asked? (key : String) (value : Option String) : List (String × String) :=
  (value.map fun v => (key, v)).toList

/-- The pairs that the query is to say. -/
def asks : Operation α → List (String × String)
  | search q =>
    [("q", q.query), ("limit", toString q.limit.toNat), ("offset", toString q.offset.toNat)] ++
      asked? "repo" (q.repo.filter (· ≠ "")) ++
      asked? "classification" (q.classification.filter (· ≠ ""))
  | suggestions query count => [("q", query), ("count", toString (count.elim 10 UInt32.toNat))]
  | getTree _ _ path => asked? "path" (path.filter fun p => !Text.isBlankText p)
  | exportRepository _ ref format => [("ref", ref), ("format", format)]
  | _ => []

/-! ## The pairs of a call -/

theorem filterParam_eq (key : String) (value : Option String) :
    SearchQuery.filterParam key value = asked? key (value.filter (· ≠ "")) := by
  cases value with
  | none => rfl
  | some v =>
    by_cases h : v = ""
    · subst h
      rfl
    · rw [Option.filter_some_pos (by simpa using h), SearchQuery.filterParam,
        if_neg (by simpa using h)]
      rfl

theorem query_withParam? (r : ApiRequest) (key : String) {value : Option String}
    (h : value ≠ some "") : (r.withParam? key value).query = r.query ++ asked? key value := by
  cases value with
  | none => simp [ApiRequest.withParam?, asked?]
  | some v =>
    have hv : ¬ v.isEmpty = true := by
      rw [String.isEmpty_iff]
      rintro rfl
      exact h rfl
    rw [ApiRequest.withParam?, if_neg hv]
    rfl

theorem nonBlank?_ne_empty (value : Option String) : nonBlank? value ≠ some "" := by
  intro h
  have hblank := (Option.filter_eq_some_iff.mp h).2
  exact absurd hblank (by decide)

theorem query_request (op : Operation α) : op.request.query = op.asks := by
  cases op with
  | search q =>
    rw [asks, ← filterParam_eq, ← filterParam_eq]
    rfl
  | suggestions query count =>
    cases count <;> rfl
  | getTree repo ref path =>
    rw [request, query_withParam? _ _ (nonBlank?_ne_empty path)]
    rfl
  | _ => rfl

theorem toString_inj {m n : Nat} : toString m = toString n ↔ m = n := by
  refine ⟨?_, congrArg toString⟩
  intro h
  have hdigits : Nat.toDigits 10 m = Nat.toDigits 10 n := String.ofList_injective h
  rw [← Nat.ofDigitChars_ten_toDigits (n := m), hdigits, Nat.ofDigitChars_ten_toDigits]

theorem asked?_append_inj {key key' : String} (hkey : key ≠ key') (a b a' b' : Option String) :
    asked? key a ++ asked? key' b = asked? key a' ++ asked? key' b' ↔ a = a' ∧ b = b' := by
  cases a <;> cases b <;> cases a' <;> cases b' <;> simp [asked?, hkey, hkey.symm]

theorem asks_search_inj (q q' : SearchQuery) :
    (search q).asks = (search q').asks ↔ q.withoutEmpty = q'.withoutEmpty := by
  simp only [asks, List.cons_append, List.nil_append, List.cons.injEq, Prod.mk.injEq, true_and,
    toString_inj, UInt32.toNat_inj, asked?_append_inj (by decide : "repo" ≠ "classification"),
    SearchQuery.withoutEmpty, SearchQuery.mk.injEq]

end Operation

/-! ## The query of an address -/

theorem isPlain_of_mem_endpoint {op : Operation α} {c : Char}
    (h : c ∈ op.request.endpoint.toList) : Url.IsPlain c := by
  rw [op.endpoint_eq_joined, List.mem_cons] at h
  rcases h with rfl | h
  · decide
  rcases Text.mem_joined h with rfl | ⟨p, hp, hc⟩
  · decide
  · obtain ⟨t, -, rfl⟩ := List.mem_map.mp hp
    exact (Url.isPlain_of_mem_segmentChars hc).1

theorem isUnmarked_of_plain {s : List Char} (h : ∀ c ∈ s, Url.IsPlain c) :
    Address.IsUnmarked s :=
  ⟨fun hc => absurd (h _ hc) (by decide), fun hc => absurd (h _ hc) (by decide)⟩

theorem query_withParams {a : Address} (h : a.query = none) (params : List (String × String)) :
    (a.withParams params).query = if params = [] then none else some (Form.text params) := by
  cases params with
  | nil => simp [Address.withParams, h]
  | cons p ps => simp [Address.withParams, h]

variable {config : ClientConfig} {c : Client}

theorem toList_url (hclient : Client.ofConfig config = .ok c) (op : Operation α) :
    (c.httpRequest op.request).url.toList = Url.dropEndSlashes config.baseUrl.toList ++
      '/' :: op.request.endpoint.toList.dropWhile (· == '/') := by
  rw [Client.httpRequest, Url.join, String.toList_ofList, (Client.of_ofConfig hclient).1,
    String.toList_ofList, Url.dropEndSlashes_idem]

theorem isPlain_of_mem_path (op : Operation α) :
    ∀ c ∈ '/' :: op.request.endpoint.toList.dropWhile (· == '/'), Url.IsPlain c := by
  intro c hc
  rcases List.mem_cons.mp hc with rfl | hc
  · decide
  · exact isPlain_of_mem_endpoint ((List.dropWhile_suffix _).subset hc)

theorem query_of_address (hmarks : Address.IsUnmarked config.baseUrl.toList)
    (hclient : Client.ofConfig config = .ok c) {op : Operation α} {a : Address}
    (ha : a ∈ (c.httpRequest op.request).address?) :
    a.query = if op.asks = [] then none else some (Form.text op.asks) := by
  obtain ⟨bare, hbare, rfl⟩ := Option.map_eq_some_iff.mp ha
  rw [Address.ofString?, toList_url hclient] at hbare
  have hurl := (hmarks.of_subset (Url.dropEndSlashes_subset _)).append
    (isUnmarked_of_plain (isPlain_of_mem_path op))
  change (bare.withParams op.request.query).query = _
  rw [query_withParams (Address.query_eq_none hurl hbare), op.query_request]

theorem isSome_address (hmarks : Address.IsUnmarked config.baseUrl.toList)
    (hclient : Client.ofConfig config = .ok c) (op : Operation α)
    (h : (Address.ofString? (Url.join config.baseUrl "")).isSome) :
    (c.httpRequest op.request).address?.isSome := by
  have hplain := isPlain_of_mem_path op
  rw [Address.ofString?, Url.join, String.toList_ofList] at h
  rw [HttpRequest.address?, Option.isSome_map, Address.ofString?, toList_url hclient]
  apply Address.isSome_ofChars?_append (hmarks.of_subset (Url.dropEndSlashes_subset _))
    (isUnmarked_of_plain hplain) _ h
  intro ch hch
  exact (hplain ch (List.mem_cons_of_mem _ hch)).1

/-- For every base address without a query or a fragment, the query that is sent says the arguments
of the operation that belong there, and nothing else, whatever the arguments are. It is sent
wherever the base leads somewhere. Searches have the same query only if they are the same search. -/
theorem query_says_arguments (hmarks : Address.IsUnmarked config.baseUrl.toList)
    (hclient : Client.ofConfig config = .ok c) (op : Operation α) (s : Script) (tr : Trail) :
    (∃ r q, (c.run s.transport op).run tr = (r, tr.call q) ∧
      ((Address.ofString? (Url.join config.baseUrl "")).isSome → q.address?.isSome) ∧
      ∀ a ∈ q.address?, a.query.map Form.read = if op.asks = [] then none else some op.asks) ∧
    ∀ x y : SearchQuery, ∀ a ∈ (c.httpRequest (Operation.search x).request).address?,
      ∀ b ∈ (c.httpRequest (Operation.search y).request).address?,
        (a.query = b.query ↔ x.withoutEmpty = y.withoutEmpty) := by
  refine ⟨⟨_, _, s.run_operation tr c op, isSome_address hmarks hclient op, ?_⟩, ?_⟩
  · intro a ha
    rw [query_of_address hmarks hclient ha]
    split
    · rfl
    · rw [Option.map_some, Form.read_text]
  · intro x y a ha b hb
    have hasks (q : SearchQuery) : (Operation.search q).asks ≠ [] := by simp [Operation.asks]
    rw [query_of_address hmarks hclient ha, query_of_address hmarks hclient hb, if_neg (hasks x),
      if_neg (hasks y), Option.some.injEq, ← Operation.asks_search_inj]
    exact ⟨Form.text_injective, congrArg Form.text⟩

theorem marked_search_says_itself :
    ∃ c r q a, Client.ofConfig (.ofBaseUrl "HTTPS://Portal.example/a b//") = .ok c ∧
      (c.run (Script.transport ⟨fun _ => .timedOut "", fun _ => .ofSeconds 0⟩)
        (.search ⟨"a&b=c +%2B", 20, 7, some "", some "é#?"⟩)).run .empty =
          (r, Trail.empty.call q) ∧
      q.address? = some a ∧
      a.query.map Form.read =
        some [("q", "a&b=c +%2B"), ("limit", "20"), ("offset", "7"), ("classification", "é#?")] := by
  have hmarks : Address.IsUnmarked
      (ClientConfig.ofBaseUrl "HTTPS://Portal.example/a b//").baseUrl.toList := by decide
  obtain ⟨⟨r, q, hrun, hsome, hquery⟩, -⟩ := query_says_arguments hmarks rfl
    (.search ⟨"a&b=c +%2B", 20, 7, some "", some "é#?"⟩)
    ⟨fun _ => .timedOut "", fun _ => .ofSeconds 0⟩ .empty
  obtain ⟨a, ha⟩ := Option.isSome_iff_exists.mp (hsome (by decide))
  refine ⟨_, r, q, a, rfl, hrun, ha, ?_⟩
  rw [hquery a ha]
  rfl

end Portal

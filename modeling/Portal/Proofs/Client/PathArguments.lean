import Mathlib.Data.List.Forall2
import Portal.Proofs.Http.Script
import Portal.Proofs.Url.Base

/-!
# Arguments in a path

Each argument of an operation has a place of its own in the path, and a file's path has one for each
of its pieces. They all keep it, as long as none of them is dots.
-/

namespace Portal

/-- What one segment of a path is to say: a fixed word or an argument. -/
inductive PathPart
  | word (text : String)
  | argument (text : List Char)

namespace PathPart

def chars : PathPart → List Char
  | word text => text.toList
  | argument text => text

def segment : PathPart → List Char
  | word text => text.toList
  | argument text => Url.segmentChars text

/-- A word stands there as it is, an argument decodes back to its bytes. -/
def IsReadFrom (segment : List Char) : PathPart → Prop
  | word text => segment = text.toList
  | argument text => Percent.decode segment = Utf8.encode text

def words : List String :=
  ["v1", "repos", "tree", "search", "suggest", "metadata", "upload", "init", "commit", "export",
    "exports", "health"]

def IsKnown : PathPart → Prop
  | word text => text ∈ words
  | argument _ => True

theorem segmentChars_word : ∀ text ∈ words, Url.segmentChars text.toList = text.toList := by
  decide

theorem segmentChars_chars {p : PathPart} (h : p.IsKnown) :
    Url.segmentChars p.chars = p.segment := by
  cases p with
  | word text => exact segmentChars_word text h
  | argument text => rfl

theorem isReadFrom_segment (p : PathPart) : p.IsReadFrom p.segment := by
  cases p with
  | word text => exact rfl
  | argument text => exact Url.decode_segmentChars text

theorem decode_of_isReadFrom {p : PathPart} (hp : p.IsKnown) {s : List Char} (h : p.IsReadFrom s) :
    Percent.decode s = Utf8.encode p.chars := by
  cases p with
  | word text =>
    have hs : s = Url.segmentChars text.toList := Eq.trans h (segmentChars_word text hp).symm
    rw [hs, Url.decode_segmentChars, chars]
  | argument text => exact h

theorem map_decode_of_isReadFrom {segments : List (List Char)} {parts : List PathPart}
    (hparts : ∀ p ∈ parts, p.IsKnown) (h : List.Forall₂ IsReadFrom segments parts) :
    segments.map Percent.decode = (parts.map chars).map Utf8.encode := by
  induction h with
  | nil => rfl
  | cons hp _ ih =>
    rw [List.map_cons, decode_of_isReadFrom (hparts _ List.mem_cons_self) hp,
      ih fun q hq => hparts q (List.mem_cons_of_mem _ hq)]
    rfl

end PathPart

namespace Operation

open PathPart (word argument)

/-! ## The path of an operation -/

def repositoryParts (repo : String) (rest : List PathPart) : List PathPart :=
  word "v1" :: word "repos" :: argument repo.toList :: rest

def metadataParts (repo ref path : String) : List PathPart :=
  repositoryParts repo <| word "metadata" :: argument ref.toList ::
    (Url.pathPieces path.toList).map argument

def parts : Operation α → List PathPart
  | listRepositories | createRepository .. => [word "v1", word "repos"]
  | getRepository name => repositoryParts name []
  | getTree repo ref _ => repositoryParts repo [word "tree", argument ref.toList]
  | search _ => [word "v1", word "search"]
  | suggestions .. => [word "v1", word "search", word "suggest"]
  | getMetadata repo ref path | updateMetadata repo ref path _ => metadataParts repo ref path
  | initiateUpload repo .. => repositoryParts repo [word "upload", word "init"]
  | commitUpload repo .. => repositoryParts repo [word "commit"]
  | exportRepository repo .. => repositoryParts repo [word "export"]
  | exportStatus id => [word "v1", word "exports", argument id.toList]
  | health => [word "health"]

/-- The file whose path ends the operation's own. -/
def file? : Operation α → Option String
  | getMetadata _ _ path | updateMetadata _ _ path _ => some path
  | _ => none

/-- The segments of the root as they are, and then one for each part. -/
def StaysIn (op : Operation α) (root segments : List (List Char)) : Prop :=
  ∃ rest, segments = root ++ rest ∧ List.Forall₂ PathPart.IsReadFrom rest op.parts

/-- No part is dots, and a file's path names a file. -/
def HasPlainPath (op : Operation α) : Prop :=
  (∀ p ∈ op.parts, ¬ Url.IsDots p.chars) ∧ ∀ path ∈ op.file?, Url.pathPieces path.toList ≠ []

instance (op : Operation α) : Decidable op.HasPlainPath := inferInstanceAs (Decidable (_ ∧ _))

theorem isKnown_of_mem_parts (op : Operation α) : ∀ p ∈ op.parts, p.IsKnown := by
  cases op <;> simp [parts, repositoryParts, metadataParts, PathPart.IsKnown, PathPart.words]

/-- Where a file's path has no pieces, the slash before them stays. -/
def bareSlash (path : String) : List (List Char) :=
  if Url.pathPieces path.toList = [] then [[]] else []

def leftOver (op : Operation α) : List (List Char) :=
  match op.file? with
  | some path => bareSlash path
  | none => []

def written (op : Operation α) : List (List Char) :=
  op.parts.map PathPart.chars ++ op.leftOver

theorem eq_nil_of_mem_leftOver {op : Operation α} {t : List Char} (h : t ∈ op.leftOver) :
    t = [] := by
  unfold leftOver bareSlash at h
  split at h
  · split at h <;> simp_all
  · simp at h

theorem leftOver_eq_nil_iff (op : Operation α) :
    op.leftOver = [] ↔ ∀ path ∈ op.file?, Url.pathPieces path.toList ≠ [] := by
  unfold leftOver bareSlash
  cases op.file? with
  | none => simp
  | some path => simp

theorem map_segmentChars_written (op : Operation α) :
    op.written.map Url.segmentChars = op.parts.map PathPart.segment ++ op.leftOver := by
  have hparts : (op.parts.map PathPart.chars).map Url.segmentChars =
      op.parts.map PathPart.segment := by
    rw [List.map_map]
    apply List.map_congr_left
    intro p hp
    exact PathPart.segmentChars_chars (op.isKnown_of_mem_parts p hp)
  have hempty : ∀ t ∈ op.leftOver, Url.segmentChars t = t := by
    intro t ht
    rw [eq_nil_of_mem_leftOver ht]
    rfl
  rw [written, List.map_append, hparts, List.map_congr_left hempty, List.map_id']

/-! ## Its endpoint -/

@[simp]
theorem endpoint_withParam (r : ApiRequest) (key value : String) :
    (r.withParam key value).endpoint = r.endpoint := rfl

@[simp]
theorem endpoint_withParam? (r : ApiRequest) (key : String) (value : Option String) :
    (r.withParam? key value).endpoint = r.endpoint := by
  cases value with
  | none => rfl
  | some value =>
    rw [ApiRequest.withParam?]
    split <;> rfl

@[simp]
theorem endpoint_withBody (r : ApiRequest) (body : Json) :
    (r.withBody body).endpoint = r.endpoint := rfl

theorem toList_toString (s : String) : (toString s).toList = s.toList := rfl

theorem joined_file (path : String) :
    Text.joined '/' ((Url.pathPieces path.toList).map Url.segmentChars ++ bareSlash path) =
      Url.pathChars path.toList := by
  unfold bareSlash Url.pathChars
  split
  · next h => rw [h]; rfl
  · rw [List.append_nil]

theorem metadataEndpoint_eq_joined (repo ref path : String) :
    (metadataEndpoint repo ref path).toList = '/' :: Text.joined '/'
      ((metadataParts repo ref path).map PathPart.segment ++ bareSlash path) := by
  have hfile : ((Url.pathPieces path.toList).map argument).map PathPart.segment =
      (Url.pathPieces path.toList).map Url.segmentChars := by
    rw [List.map_map]
    rfl
  have hne : (Url.pathPieces path.toList).map Url.segmentChars ++ bareSlash path ≠ [] := by
    unfold bareSlash
    split <;> simp_all
  simp only [metadataParts, repositoryParts, List.map_cons, hfile, List.cons_append, Text.joined,
    Text.joined_cons hne, joined_file]
  simp [metadataEndpoint, PathPart.segment, Url.encodePath, toList_toString,
    Url.toList_encodeSegment]

theorem endpoint_eq_joined (op : Operation α) :
    op.request.endpoint.toList = '/' :: Text.joined '/' (op.written.map Url.segmentChars) := by
  rw [map_segmentChars_written]
  cases op with
  | getMetadata repo ref path => exact metadataEndpoint_eq_joined repo ref path
  | updateMetadata repo ref path metadata => exact metadataEndpoint_eq_joined repo ref path
  | _ =>
    simp [request, parts, leftOver, file?, repositoryParts, PathPart.segment, Text.joined,
      ApiRequest.get, ApiRequest.post, ApiRequest.ofMethod, toList_toString,
      Url.toList_encodeSegment]

theorem written_eq_cons (op : Operation α) : ∃ w ws, op.written = w :: ws ∧ w ≠ [] := by
  cases op <;> exact ⟨_, _, rfl, by decide⟩

end Operation

/-! ## Where it leads -/

theorem segments_withParams (a : Address) (params : List (String × String)) :
    (a.withParams params).segments = a.segments := by
  unfold Address.withParams
  split <;> rfl

variable (b : BaseUrl) {config : ClientConfig} {c : Client}

/-- The reader of the address follows the dots that an operation writes, and nothing else. -/
theorem address_of_operation (hbase : config.baseUrl = b.text)
    (hclient : Client.ofConfig config = .ok c) (op : Operation α) :
    ∃ a, (c.httpRequest op.request).address? = some a ∧
      a.segments = Address.resolve ((b.rootPieces ++ op.written).map Url.segmentChars) := by
  obtain ⟨w, ws, hwritten, hw⟩ := op.written_eq_cons
  have htrunk : c.baseUrl.toList = b.front ++ b.trunk := by
    rw [(Client.of_ofConfig hclient).1, String.toList_ofList, hbase, b.dropEndSlashes_text]
  have hendpoint := op.endpoint_eq_joined
  rw [hwritten] at hendpoint ⊢
  obtain ⟨a, ha, hsegments, -⟩ := b.address_of_endpoint htrunk hw hendpoint
  refine ⟨a.withParams op.request.query, ?_, ?_⟩
  · rw [HttpRequest.address?, Client.httpRequest, ha]
    rfl
  · rw [segments_withParams, hsegments]

theorem staysIn_segments (op : Operation α) (root : List (List Char)) :
    op.StaysIn root (root ++ op.parts.map PathPart.segment) := by
  refine ⟨_, rfl, ?_⟩
  rw [List.forall₂_map_left_iff, List.forall₂_same]
  exact fun p _ => p.isReadFrom_segment

theorem decode_of_staysIn {op : Operation α} {segments : List (List Char)}
    (h : op.StaysIn b.rootPieces segments) :
    segments.map Percent.decode =
      (b.rootPieces ++ op.parts.map PathPart.chars).map Utf8.encode := by
  obtain ⟨rest, rfl, hrest⟩ := h
  have hroot : b.rootPieces.map Percent.decode = b.rootPieces.map Utf8.encode := by
    rw [← Address.map_decode_segmentChars, b.map_segmentChars_rootPieces]
  rw [List.map_append, List.map_append, hroot,
    PathPart.map_decode_of_isReadFrom op.isKnown_of_mem_parts hrest]

theorem dots_of_written (op : Operation α) : ∀ t ∈ b.rootPieces ++ op.written, Url.IsDots t →
    t ∈ b.rootPieces ++ op.parts.map PathPart.chars := by
  intro t ht hdots
  rcases List.mem_append.mp ht with ht | ht
  · exact List.mem_append_left _ ht
  rcases List.mem_append.mp ht with ht | ht
  · exact List.mem_append_right _ ht
  · rw [Operation.eq_nil_of_mem_leftOver ht] at hdots
    exact absurd hdots (by decide)

/-- Each argument keeps to its place in the path that reaches the server, whatever it holds, exactly
when no argument and no piece of a file's path is dots and the file's path has a piece. -/
theorem arguments_stay_in_place_iff (hbase : config.baseUrl = b.text)
    (hclient : Client.ofConfig config = .ok c) (op : Operation α) (s : Script) (tr : Trail) :
    ∃ r q a, (c.run s.transport op).run tr = (r, tr.call q) ∧ q.address? = some a ∧
      (op.StaysIn b.rootPieces a.segments ↔ op.HasPlainPath) := by
  obtain ⟨a, ha, hsegments⟩ := address_of_operation b hbase hclient op
  refine ⟨_, _, a, s.run_operation tr c op, ha, ?_⟩
  rw [hsegments]
  constructor
  · -- Dots would not be found among the segments, and nothing may be left over.
    intro hstays
    obtain ⟨hwritten, hplain⟩ := Address.eq_of_resolve_decodes (dots_of_written b op)
      (decode_of_staysIn b hstays)
    refine ⟨?_, ?_⟩
    · intro p hp
      exact hplain _ (List.mem_append_right _ (List.mem_map_of_mem hp))
    · rw [← op.leftOver_eq_nil_iff]
      simpa [Operation.written] using hwritten
  · -- Without dots the reader has nothing to follow.
    rintro ⟨hplain, hfile⟩
    have hleft : op.leftOver = [] := op.leftOver_eq_nil_iff.mpr hfile
    rw [Address.resolve_segmentChars, List.map_append, b.map_segmentChars_rootPieces,
      op.map_segmentChars_written, hleft, List.append_nil]
    · exact staysIn_segments op b.rootPieces
    · intro t ht
      rcases List.mem_append.mp ht with ht | ht
      · exact b.rootPieces_not_dots ht
      · rw [Operation.written, hleft, List.append_nil] at ht
        obtain ⟨p, hp, rfl⟩ := List.mem_map.mp ht
        exact hplain p hp

/-- A portal that answers below a directory of its host. -/
def nestedBase : BaseUrl where
  scheme := .https
  host := "portal.example:8443".toList
  root := "/lake/api-2//".toList
  host_chars := by simp
  host_reads := by decide
  root_chars := by simp
  root_starts := by simp

theorem marked_arguments_stay_in_place :
    ∃ c r q a, Client.ofConfig (.ofBaseUrl nestedBase.text) = .ok c ∧
      (c.run (Script.transport ⟨fun _ => .timedOut "", fun _ => .ofSeconds 0⟩)
        (.getMetadata "a/b%2F" "..." "/x//é?.y/")).run .empty = (r, Trail.empty.call q) ∧
      q.address? = some a ∧
      (Operation.getMetadata "a/b%2F" "..." "/x//é?.y/").StaysIn nestedBase.rootPieces
        a.segments := by
  have hbase : (ClientConfig.ofBaseUrl nestedBase.text).baseUrl = nestedBase.text := rfl
  obtain ⟨r, q, a, hrun, ha, hstays⟩ := arguments_stay_in_place_iff nestedBase hbase rfl
    (.getMetadata "a/b%2F" "..." "/x//é?.y/") ⟨fun _ => .timedOut "", fun _ => .ofSeconds 0⟩ .empty
  exact ⟨_, r, q, a, rfl, hrun, ha, hstays.mpr (by decide)⟩

/-- Two dots for the name of a repository take the word before it away. -/
theorem dots_leave_their_place :
    ∃ c a, Client.ofConfig (.ofBaseUrl nestedBase.text) = .ok c ∧
      (c.httpRequest (Operation.getRepository "..").request).address? = some a ∧
      a.segments = ["lake".toList, "api-2".toList, "v1".toList, []] ∧
      ¬ (Operation.getRepository "..").StaysIn nestedBase.rootPieces a.segments := by
  have hbase : (ClientConfig.ofBaseUrl nestedBase.text).baseUrl = nestedBase.text := rfl
  obtain ⟨a, ha, hsegments⟩ := address_of_operation nestedBase hbase rfl (.getRepository "..")
  have hpath : a.segments = ["lake".toList, "api-2".toList, "v1".toList, []] := by
    rw [hsegments]
    decide
  refine ⟨_, a, rfl, ha, hpath, ?_⟩
  rw [hpath]
  rintro ⟨rest, hrest, hparts⟩
  have hroot : nestedBase.rootPieces.length = 2 := by decide
  have htotal := congrArg List.length hrest
  rw [List.length_append, hroot, hparts.length_eq] at htotal
  exact absurd htotal (by decide)

end Portal

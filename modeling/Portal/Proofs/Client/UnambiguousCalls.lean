import Portal.Proofs.Client.PathArguments
import Portal.Proofs.Json.Members

/-!
# What a call is about

The method and the endpoint of a call tell which operation it is and what its path names. The name
of a new repository and the ref of an export are not in the path: the body and the query tell them.
-/

namespace Portal

/-- An operation and the names in its path. A file has the pieces of its path for a name. -/
inductive Target
  | repositories
  | newRepository
  | repository (name : String)
  | tree (repo ref : String)
  | search
  | suggestions
  | metadata (repo ref : String) (file : List String)
  | newMetadata (repo ref : String) (file : List String)
  | newUpload (repo : String)
  | newCommit (repo : String)
  | newExport (repo : String)
  | exportOf (id : String)
  | health

namespace Target

/-- What a server makes of a method and the segments of a path. -/
def ofSegments? (method : String) (segments : List String) : Option Target :=
  match method, segments with
  | "GET", ["v1", "repos"] => some .repositories
  | "POST", ["v1", "repos"] => some .newRepository
  | "GET", ["v1", "repos", name] => some (.repository name)
  | "GET", ["v1", "repos", repo, "tree", ref] => some (.tree repo ref)
  | "GET", ["v1", "search"] => some .search
  | "GET", ["v1", "search", "suggest"] => some .suggestions
  | "GET", "v1" :: "repos" :: repo :: "metadata" :: ref :: file =>
    some (.metadata repo ref (file.filter (· ≠ "")))
  | "PUT", "v1" :: "repos" :: repo :: "metadata" :: ref :: file =>
    some (.newMetadata repo ref (file.filter (· ≠ "")))
  | "POST", ["v1", "repos", repo, "upload", "init"] => some (.newUpload repo)
  | "POST", ["v1", "repos", repo, "commit"] => some (.newCommit repo)
  | "POST", ["v1", "repos", repo, "export"] => some (.newExport repo)
  | "GET", ["v1", "exports", id] => some (.exportOf id)
  | "GET", ["health"] => some .health
  | _, _ => none

/-- All the names of a call, with those that stand in its query or its body. -/
def names (query : List (String × String)) (body : Option Json) : Target → List String
  | repository name => [name]
  | newRepository => ((body.bind (Json.get? "name")).bind Json.string?).toList
  | tree repo ref | metadata repo ref _ | newMetadata repo ref _ => [repo, ref]
  | newUpload repo | newCommit repo => [repo]
  | newExport repo => repo :: (query.lookup "ref").toList
  | exportOf id => [id]
  | repositories | search | suggestions | health => []

end Target

namespace Operation

open PathPart (argument)

def filePieces (path : String) : List String :=
  (Url.pathPieces path.toList).map String.ofList

def target : Operation α → Target
  | listRepositories => .repositories
  | createRepository .. => .newRepository
  | getRepository name => .repository name
  | getTree repo ref _ => .tree repo ref
  | search _ => .search
  | suggestions .. => .suggestions
  | getMetadata repo ref path => .metadata repo ref (filePieces path)
  | updateMetadata repo ref path _ => .newMetadata repo ref (filePieces path)
  | initiateUpload repo .. => .newUpload repo
  | commitUpload repo .. => .newCommit repo
  | exportRepository repo .. => .newExport repo
  | exportStatus id => .exportOf id
  | health => .health

/-- The arguments that name a repository, a ref or an export. -/
def names : Operation α → List String
  | getRepository name | createRepository name _ => [name]
  | getTree repo ref _ | getMetadata repo ref _ | updateMetadata repo ref _ _
  | exportRepository repo ref _ => [repo, ref]
  | initiateUpload repo .. | commitUpload repo .. => [repo]
  | exportStatus id => [id]
  | listRepositories | search _ | suggestions .. | health => []

/-! ## Reading a call -/

theorem file_written (path : String) :
    ((Url.pathPieces path.toList ++ bareSlash path).map String.ofList).filter (· ≠ "") =
      filePieces path := by
  -- The slash that stays where a file has no pieces says nothing.
  have hpieces : ∀ p ∈ filePieces path, p ≠ "" := by
    intro p hp
    obtain ⟨s, hs, rfl⟩ := List.mem_map.mp hp
    have hne := (List.mem_filter.mp hs).2
    intro h
    rw [← String.toList_inj, String.toList_ofList] at h
    simp [h] at hne
  have hslash : ((bareSlash path).map String.ofList).filter (· ≠ "") = [] := by
    unfold bareSlash
    split <;> rfl
  rw [List.map_append, List.filter_append, hslash, List.append_nil]
  exact List.filter_eq_self.mpr fun p hp => by simpa using hpieces p hp

theorem metadata_written (repo ref path : String) :
    ((metadataParts repo ref path).map PathPart.chars ++ bareSlash path).map String.ofList =
      "v1" :: "repos" :: repo :: "metadata" :: ref ::
        (Url.pathPieces path.toList ++ bareSlash path).map String.ofList := by
  have hfile : ((Url.pathPieces path.toList).map argument).map PathPart.chars =
      Url.pathPieces path.toList := by
    rw [List.map_map]
    exact List.map_id _
  simp only [metadataParts, repositoryParts, List.map_cons, hfile, List.cons_append,
    PathPart.chars, String.ofList_toList]

theorem method_withParam? (r : ApiRequest) (key : String) (value : Option String) :
    (r.withParam? key value).method = r.method := by
  cases value with
  | none => rfl
  | some value =>
    rw [ApiRequest.withParam?]
    split <;> rfl

/-- What is written reads back as what the operation is about. -/
theorem ofSegments?_written (op : Operation α) :
    Target.ofSegments? op.request.method (op.written.map String.ofList) = some op.target := by
  cases op with
  | getMetadata repo ref path =>
    change Target.ofSegments? "GET" (((metadataParts repo ref path).map PathPart.chars ++
      bareSlash path).map String.ofList) = some (.metadata repo ref (filePieces path))
    rw [metadata_written, ← file_written]
    rfl
  | updateMetadata repo ref path metadata =>
    change Target.ofSegments? "PUT" (((metadataParts repo ref path).map PathPart.chars ++
      bareSlash path).map String.ofList) = some (.newMetadata repo ref (filePieces path))
    rw [metadata_written, ← file_written]
    rfl
  | _ =>
    simp only [request, method_withParam?, written, parts, repositoryParts, PathPart.chars,
      leftOver, file?, List.map_cons, List.map_nil, List.append_nil, String.ofList_toList]
    rfl

theorem pieces_endpoint (op : Operation α) :
    Text.pieces '/' op.request.endpoint.toList = [] :: op.written.map Url.segmentChars := by
  obtain ⟨w, ws, hwritten, -⟩ := op.written_eq_cons
  have hne : op.written.map Url.segmentChars ≠ [] := by simp [hwritten]
  rw [op.endpoint_eq_joined, Text.pieces, if_pos rfl, Text.pieces_joined hne]
  intro p hp
  obtain ⟨t, -, rfl⟩ := List.mem_map.mp hp
  exact Url.slash_not_mem_segmentChars t

variable {op : Operation α} {op' : Operation β}

theorem written_eq_of_endpoint (h : op.request.endpoint = op'.request.endpoint) :
    op.written = op'.written := by
  have hpieces := congrArg (fun e : String => Text.pieces '/' e.toList) h
  simp only [pieces_endpoint, List.cons.injEq, true_and] at hpieces
  exact List.map_injective_iff.mpr (fun _ _ => Url.segmentChars_injective) hpieces

theorem target_eq_of_endpoint (hmethod : op.request.method = op'.request.method)
    (hendpoint : op.request.endpoint = op'.request.endpoint) : op.target = op'.target := by
  have h := op.ofSegments?_written
  rw [hmethod, written_eq_of_endpoint hendpoint, op'.ofSegments?_written] at h
  exact (Option.some.inj h).symm

/-! ## Its names -/

theorem string?_ofMembers_name (name : String) {ms : List (String × Json)}
    (h : (("name", Json.string name) :: ms).map (·.1) |>.Nodup) :
    ((Json.ofMembers (("name", .string name) :: ms)).get? "name").bind Json.string? = some name := by
  rw [Json.ofMembers, Json.get?, Members.get?_ofList _ h]
  rfl

theorem names_target (op : Operation α) :
    op.target.names op.request.query op.request.body = op.names := by
  cases op with
  | createRepository name description =>
    change (((Json.ofMembers (("name", .string name) ::
      member? "description" .string (nonBlank? description))).get? "name").bind
        Json.string?).toList = [name]
    rw [string?_ofMembers_name]
    · rfl
    · cases nonBlank? description <;> simp [member?]
  | _ => rfl

end Operation

/-- Two calls with the same method and the same endpoint are calls of one operation, with the same
names in its path and the same pieces of a file's path. If their query and their body are the same
too, then all their names are. -/
theorem target_of_call_unique {op : Operation α} {op' : Operation β}
    (hmethod : op.request.method = op'.request.method)
    (hendpoint : op.request.endpoint = op'.request.endpoint) :
    op.target = op'.target ∧
      (op.request.query = op'.request.query → op.request.body = op'.request.body →
        op.names = op'.names) := by
  have htarget := Operation.target_eq_of_endpoint hmethod hendpoint
  refine ⟨htarget, ?_⟩
  intro hquery hbody
  rw [← op.names_target, ← op'.names_target, htarget, hquery, hbody]

theorem files_with_spare_slashes_are_one :
    (Operation.getMetadata "a/b" "" "x//é.y").request.endpoint =
        (Operation.getMetadata "a/b" "" "/x/é.y/").request.endpoint ∧
      (Operation.getMetadata "a/b" "" "x//é.y").target =
        (Operation.getMetadata "a/b" "" "/x/é.y/").target ∧
      (Operation.getMetadata "a/b" "" "x//é.y").names =
        (Operation.getMetadata "a/b" "" "/x/é.y/").names := by
  have hendpoint : (Operation.getMetadata "a/b" "" "x//é.y").request.endpoint =
      (Operation.getMetadata "a/b" "" "/x/é.y/").request.endpoint := by decide
  have h := target_of_call_unique rfl hendpoint
  exact ⟨hendpoint, h.1, h.2 rfl rfl⟩

/-- Exports of two refs, and two new repositories, differ in nothing that the path shows. -/
theorem names_outside_the_path :
    (Operation.exportRepository "r" "main" "zip").request.method =
        (Operation.exportRepository "r" "dev" "zip").request.method ∧
      (Operation.exportRepository "r" "main" "zip").request.endpoint =
        (Operation.exportRepository "r" "dev" "zip").request.endpoint ∧
      (Operation.exportRepository "r" "main" "zip").names ≠
        (Operation.exportRepository "r" "dev" "zip").names ∧
      (Operation.createRepository "r" none).request.method =
        (Operation.createRepository "s" none).request.method ∧
      (Operation.createRepository "r" none).request.endpoint =
        (Operation.createRepository "s" none).request.endpoint ∧
      (Operation.createRepository "r" none).names ≠ (Operation.createRepository "s" none).names :=
  ⟨rfl, rfl, by decide, rfl, rfl, by decide⟩

end Portal

import Portal.Client.Basic
import Portal.Envelope
import Portal.Model.Access
import Portal.Model.Repository
import Portal.Search

/-!
# Operations of the portal

Each operation is one call: what it asks for, and how its answer is read. Running it sends that one
call.
-/

namespace Portal

def defaultRef : String := "main"

def defaultExportFormat : String := "zip"

/-- The operations, with the type of what they answer. -/
inductive Operation : Type → Type
  | listRepositories : Operation (List Repository)
  | getRepository (name : String) : Operation Repository
  | createRepository (name : String) (description : Option String) : Operation Repository
  | getTree (repo ref : String) (path : Option String) : Operation TreeResponse
  | search (query : SearchQuery) : Operation SearchResponse
  | suggestions (query : String) (count : Option UInt32) : Operation (List String)
  | getMetadata (repo ref path : String) : Operation Metadata
  | updateMetadata (repo ref path : String) (metadata : Metadata) : Operation Metadata
  | initiateUpload (repo path : String) (size : UInt64) (contentType : String) :
      Operation UploadInitResponse
  | commitUpload (repo uploadId message : String) (metadata : Option Metadata) :
      Operation CommitResponse
  | exportRepository (repo ref format : String) : Operation ExportResponse
  | exportStatus (id : String) : Operation ExportResponse
  | health : Operation HealthResponse

namespace Operation

open Url (encodeSegment encodePath)

/-- The value, unless it is blank. -/
def nonBlank? (value : Option String) : Option String :=
  value.filter fun v => !Text.isBlankText v

def metadataEndpoint (repo ref path : String) : String :=
  s!"/v1/repos/{encodeSegment repo}/metadata/{encodeSegment ref}/{encodePath path}"

/-- A member for a value that is there. -/
def member? (key : String) (f : α → Json) : Option α → List (String × Json)
  | none => []
  | some a => [(key, f a)]

def request : Operation α → ApiRequest
  | listRepositories => .get "/v1/repos"
  | getRepository name => .get s!"/v1/repos/{encodeSegment name}"
  | createRepository name description =>
    (ApiRequest.post "/v1/repos").withBody <| .ofMembers <|
      ("name", .string name) :: member? "description" .string (nonBlank? description)
  | getTree repo ref path =>
    (ApiRequest.get s!"/v1/repos/{encodeSegment repo}/tree/{encodeSegment ref}").withParam?
      "path" (nonBlank? path)
  | search query => { ApiRequest.get "/v1/search" with query := query.params }
  | suggestions query count =>
    ((ApiRequest.get "/v1/search/suggest").withParam "q" query).withParam "count"
      (toString (count.getD SearchQuery.defaultSuggestionCount))
  | getMetadata repo ref path => .get (metadataEndpoint repo ref path)
  | updateMetadata repo ref path metadata =>
    (ApiRequest.put (metadataEndpoint repo ref path)).withBody (.object metadata)
  | initiateUpload repo path size contentType =>
    (ApiRequest.post s!"/v1/repos/{encodeSegment repo}/upload/init").withBody <| .ofMembers
      [("path", .string path), ("size", .int size.toNat), ("content_type", .string contentType)]
  | commitUpload repo uploadId message metadata =>
    (ApiRequest.post s!"/v1/repos/{encodeSegment repo}/commit").withBody <| .ofMembers <|
      ("upload_id", .string uploadId) :: ("message", .string message) ::
        member? "metadata" .object (metadata.filter fun ms => !ms.isEmpty)
  | exportRepository repo ref format =>
    ((ApiRequest.post s!"/v1/repos/{encodeSegment repo}/export").withParam "ref" ref).withParam
      "format" format
  | exportStatus id => .get s!"/v1/exports/{encodeSegment id}"
  | health => .get "/health"

/-- What a payload says. Most come in an envelope, and only lists may be missing from it. -/
def read : Operation α → Json → Except PortalError α
  | listRepositories => Envelope.payloadOr [] Repository.wire.list "repository list"
  | getRepository _ | createRepository .. => Envelope.payload Repository.wire "repository"
  | getTree .. => TreeResponse.wire.decodeAs "tree response"
  | search _ => SearchResponse.wire.decodeAs "search response"
  | suggestions .. => Envelope.payloadOr [] Wire.string.list "search suggestions"
  | getMetadata .. | updateMetadata .. => Envelope.payload .members "file metadata"
  | initiateUpload .. => Envelope.payload UploadInitResponse.wire "upload init response"
  | commitUpload .. => Envelope.payload CommitResponse.wire "commit response"
  | exportRepository .. | exportStatus _ =>
    Envelope.payload ExportResponse.wire "export response"
  | health => HealthResponse.wire.decodeAs "health response"

end Operation

def Client.run [Monad m] (c : Client) (t : Transport m) (op : Operation α) :
    m (Except PortalError α) := do
  let payload ← c.execute t op.request
  return payload.bind op.read

end Portal

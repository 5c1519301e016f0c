import Portal.Wire.Record

/-!
# Repositories and what goes in and out of them
-/

namespace Portal

/-! ## Repositories and their trees -/

/-- Free-form metadata of a file. -/
abbrev Metadata := Members

structure Repository where
  id : String
  name : String
  description : Option String
  createdAt : Timestamp
  updatedAt : Timestamp
  tenantId : Option String
  deriving DecidableEq

def Repository.wire : Wire Repository :=
  .record "Repository" Repository.mk <|
    .required "id" .string (·.id) <|
    .required "name" .string (·.name) <|
    .optional "description" .string (·.description) <|
    .required "created_at" .time (·.createdAt) <|
    .required "updated_at" .time (·.updatedAt) <|
    .optional "tenant_id" .string (·.tenantId) .done

inductive EntryKind
  | file
  | directory
  deriving DecidableEq

/-- A directory may also be called `dir`. -/
def EntryKind.wire : Wire EntryKind :=
  .choice [("file", .file), ("dir", .directory), ("directory", .directory)] fun
    | .file => "file"
    | .directory => "directory"

structure TreeEntry where
  path : String
  name : String
  kind : EntryKind
  size : Option UInt64
  modifiedAt : Option Timestamp
  contentType : Option String
  classification : Option String
  deriving DecidableEq

namespace TreeEntry

def isDirectory (e : TreeEntry) : Bool :=
  e.kind = .directory

def wire : Wire TreeEntry :=
  .record "TreeEntry" TreeEntry.mk <|
    .required "path" .string (·.path) <|
    .required "name" .string (·.name) <|
    .required "type" EntryKind.wire (·.kind) <|
    .optional "size" .count (·.size) <|
    .optional "modified_at" .time (·.modifiedAt) <|
    .optional "content_type" .string (·.contentType) <|
    .optional "classification" .string (·.classification) .done

end TreeEntry

/-- The entries of a directory, in the order they were listed. -/
structure TreeResponse where
  success : Bool
  data : List TreeEntry
  deriving DecidableEq

def TreeResponse.wire : Wire TreeResponse :=
  .record "TreeResponse" TreeResponse.mk <|
    .required "success" .bool (·.success) <|
    .required "data" TreeEntry.wire.list (·.data) .done

/-! ## Uploads and exports -/

/-- The bytes go to `presignedUrl`, and a commit with the `uploadId` follows. -/
structure UploadInitResponse where
  uploadId : String
  presignedUrl : String
  expiresAt : Timestamp
  deriving DecidableEq

def UploadInitResponse.wire : Wire UploadInitResponse :=
  .record "UploadInitResponse" UploadInitResponse.mk <|
    .required "upload_id" .string (·.uploadId) <|
    .required "presigned_url" .string (·.presignedUrl) <|
    .required "expires_at" .time (·.expiresAt) .done

structure CommitResponse where
  commitId : String
  message : String
  createdAt : Timestamp
  filesCount : UInt64
  deriving DecidableEq

def CommitResponse.wire : Wire CommitResponse :=
  .record "CommitResponse" CommitResponse.mk <|
    .required "commit_id" .string (·.commitId) <|
    .required "message" .string (·.message) <|
    .required "created_at" .time (·.createdAt) <|
    .required "files_count" .count (·.filesCount) .done

inductive ExportState
  | pending
  | processing
  | completed
  | failed
  | unknown
  deriving DecidableEq

namespace ExportState

/-- Blanks around a status and its case do not count. -/
def ofStatus (status : String) : ExportState :=
  match String.ofList (Text.lower (Text.trim status.toList)) with
  | "pending" | "queued" => .pending
  | "processing" | "running" => .processing
  | "completed" => .completed
  | "failed" => .failed
  | _ => .unknown

def isFinished : ExportState → Bool
  | .completed | .failed => true
  | _ => false

def text : ExportState → String
  | .pending => "pending"
  | .processing => "processing"
  | .completed => "completed"
  | .failed => "failed"
  | .unknown => "unknown"

end ExportState

structure ExportResponse where
  exportId : String
  status : String
  createdAt : Timestamp
  downloadUrl : Option String
  deriving DecidableEq

namespace ExportResponse

def state (e : ExportResponse) : ExportState :=
  .ofStatus e.status

def isFinished (e : ExportResponse) : Bool :=
  e.state.isFinished

def wire : Wire ExportResponse :=
  .record "ExportResponse" ExportResponse.mk <|
    .required "export_id" .string (·.exportId) <|
    .required "status" .string (·.status) <|
    .required "created_at" .time (·.createdAt) <|
    .optional "download_url" .string (·.downloadUrl) .done

end ExportResponse

end Portal

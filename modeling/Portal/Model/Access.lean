import Portal.Wire.Record

/-!
# The server and its tenants
-/

namespace Portal

/-! ## The server's health -/

/-- `uptime` is in seconds since the server started. -/
structure HealthResponse where
  status : String
  timestamp : Timestamp
  version : Option String
  uptime : Option Number.Binary64
  deriving DecidableEq

def HealthResponse.wire : Wire HealthResponse :=
  .record "HealthResponse" HealthResponse.mk <|
    .required "status" .string (·.status) <|
    .required "timestamp" .time (·.timestamp) <|
    .optional "version" .string (·.version) <|
    .optional "uptime" .real (·.uptime) .done

/-! ## Tenants and what they may do -/

inductive PolicyEffect
  | allow
  | deny
  deriving DecidableEq

def PolicyEffect.wire : Wire PolicyEffect :=
  .choice [("allow", .allow), ("deny", .deny)] fun
    | .allow => "allow"
    | .deny => "deny"

/-- Says what may be done to the resources that its patterns match. -/
structure Policy where
  id : String
  tenantId : String
  name : String
  effect : PolicyEffect
  actions : List String
  resources : List String
  condition : Option Members
  createdAt : Timestamp
  updatedAt : Timestamp

def Policy.wire : Wire Policy :=
  .record "Policy" Policy.mk <|
    .required "id" .string (·.id) <|
    .required "tenant_id" .string (·.tenantId) <|
    .required "name" .string (·.name) <|
    .required "effect" PolicyEffect.wire (·.effect) <|
    .required "actions" Wire.string.list (·.actions) <|
    .required "resources" Wire.string.list (·.resources) <|
    .optional "condition" .members (·.condition) <|
    .required "created_at" .time (·.createdAt) <|
    .required "updated_at" .time (·.updatedAt) .done

structure Tenant where
  id : String
  name : String
  createdAt : Timestamp
  deriving DecidableEq

def Tenant.wire : Wire Tenant :=
  .record "Tenant" Tenant.mk <|
    .required "id" .string (·.id) <|
    .required "name" .string (·.name) <|
    .required "created_at" .time (·.createdAt) .done

structure SubjectAttribute where
  subject : String
  key : String
  value : String
  createdAt : Timestamp
  deriving DecidableEq

def SubjectAttribute.wire : Wire SubjectAttribute :=
  .record "SubjectAttribute" SubjectAttribute.mk <|
    .required "subject" .string (·.subject) <|
    .required "key" .string (·.key) <|
    .required "value" .string (·.value) <|
    .required "created_at" .time (·.createdAt) .done

end Portal

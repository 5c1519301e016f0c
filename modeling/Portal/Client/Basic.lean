import Portal.Config.Load
import Portal.Http.Request
import Portal.Http.Transport
import Portal.Url.Encoding

/-!
# Clients

A client knows where the portal is and what goes with every request. The key goes out as a bearer
token. A blocking client has a runtime of its own, on which a client does all of its work.
-/

namespace Portal

structure Client where
  baseUrl : String
  timeout : Duration
  verifyTls : Bool
  defaultHeaders : Headers

namespace Client

def userAgent : String := "blacklake-sdk-rust/0.1.0"

/-- The key without blanks around it, unless nothing is left of it. -/
def usedKey? (config : ClientConfig) : Option String := do
  let key := Text.trim (← config.apiKey).toList
  if key.isEmpty then none else some (.ofList key)

def defaultHeadersOf (config : ClientConfig) : Except ConfigError Headers :=
  let always := (Headers.empty.insert "content-type" "application/json").insert
    "user-agent" userAgent
  match usedKey? config with
  | none => .ok always
  | some key =>
    let value := s!"Bearer {key}"
    if Headers.isValue value then .ok (always.insert "authorization" value)
    else .error .badApiKey

/-- The only thing that can be wrong is the key. -/
def ofConfig (config : ClientConfig) : Except ConfigError Client := do
  let headers ← defaultHeadersOf config
  return {
    baseUrl := .ofList (Url.dropEndSlashes config.baseUrl.toList)
    timeout := config.timeout
    verifyTls := config.verifyTls
    defaultHeaders := headers }

theorem of_ofConfig {config : ClientConfig} {c : Client} (h : ofConfig config = .ok c) :
    c.baseUrl = .ofList (Url.dropEndSlashes config.baseUrl.toList) ∧
      defaultHeadersOf config = .ok c.defaultHeaders := by
  unfold ofConfig at h
  cases hh : defaultHeadersOf config with
  | error e => simp [hh, bind, Except.bind] at h
  | ok headers =>
    simp only [hh, bind, Except.bind, pure, Except.pure, Except.ok.injEq] at h
    rw [← h]
    exact ⟨rfl, rfl⟩

/-- The headers of a call. A body is JSON unless they say otherwise. -/
def headersFor (c : Client) (r : ApiRequest) : Headers :=
  let merged := Headers.merge c.defaultHeaders r.headers
  if r.body.isSome ∧ !merged.contains "content-type" then
    merged.insert "content-type" "application/json"
  else merged

/-- The call as it is sent. -/
def httpRequest (c : Client) (r : ApiRequest) : HttpRequest :=
  ⟨r.method, Url.join c.baseUrl r.endpoint, r.query, c.headersFor r, r.body.map Json.text⟩

/-- Sends a call once and gives its payload. -/
def execute [Monad m] (c : Client) (t : Transport m) (r : ApiRequest) :
    m (Except PortalError Json) := do
  let outcome ← t.send (c.httpRequest r)
  return outcome.payload

end Client

structure BlockingClient (ρ : Type) where
  inner : Client
  runtime : ρ

/-- `started` is how the start of the runtime went. Only then is the client made. -/
def BlockingClient.ofConfig (started : Except String ρ) (config : ClientConfig) :
    Except ConfigError (BlockingClient ρ) := do
  let runtime ← started.mapError .noRuntime
  let inner ← Client.ofConfig config
  return ⟨inner, runtime⟩

end Portal

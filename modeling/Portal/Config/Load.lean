import Portal.Config.Basic
import Portal.Config.RcFile
import Portal.Text.Utf8
import Portal.Url.Encoding

/-!
# Loading a configuration

Each setting comes from the first of four sources that has it: the caller, the environment, a
configuration file, the defaults. A source is not looked at where an earlier one has spoken, so
what is wrong there does not matter.
-/

namespace Portal

/-- What is found under a path. -/
inductive Entry
  | file (bytes : List UInt8)
  | directory
  /-- The system does not let it be read, and says why. -/
  | locked (reason : String)

inductive ReadFault
  | isDirectory
  | refused (reason : String)
  | notUtf8
  | setting (fault : SettingFault)
  deriving DecidableEq

def ReadFault.message : ReadFault → String
  | .isDirectory => "Is a directory (os error 21)"
  | .refused reason => reason
  | .notUtf8 => "stream did not contain valid UTF-8"
  | .setting fault => fault.message

inductive ConfigError
  | setting (fault : SettingFault)
  | unreadable (path : String) (fault : ReadFault)
  | notHttp (url : String)
  | badApiKey
  | noRuntime (reason : String)
  deriving DecidableEq

def ConfigError.message : ConfigError → String
  | .setting fault => fault.message
  | .unreadable path fault => s!"failed to read configuration file {path}: {fault.message}"
  | .notHttp url =>
    s!"Invalid configuration: url must start with http:// or https:// (got `{url}`)"
  | .badApiKey =>
    "API key contains characters that are not valid in an HTTP header: " ++
      "failed to parse header value"
  | .noRuntime reason => s!"failed to start runtime for blocking client: {reason}"

abbrev Environment := String → Option String

namespace Settings

/-- What `a` says, and what `b` says where `a` says nothing. -/
def or (a b : Settings) : Settings :=
  ⟨a.url.or b.url, a.key.or b.key, a.verify.or b.verify, a.timeout.or b.timeout⟩

def isComplete (s : Settings) : Bool :=
  s.url.isSome && s.key.isSome && s.verify.isSome && s.timeout.isSome

/-- `given`, or what a text says when there is one. -/
def orRead (given : Option α) (text : Option String) (read : List Char → Except SettingFault α) :
    Except SettingFault (Option α) :=
  match given, text with
  | some a, _ => .ok (some a)
  | none, none => .ok none
  | none, some t => (read t.toList).map some

/-- What is given, completed from the environment. The truth value is read before the timeout. -/
def withEnvironment (given : Settings) (env : Environment) : Except SettingFault Settings := do
  let verify ← orRead given.verify (env "BLACKLAKE_VERIFY") readBool
  let timeout ← orRead given.timeout (env "BLACKLAKE_TIMEOUT") readTimeout
  return ⟨given.url.or (env "BLACKLAKE_URL"), given.key.or (env "BLACKLAKE_API_KEY"),
    verify, timeout⟩

def ofEntry : Entry → Except ReadFault Settings
  | .directory => .error .isDirectory
  | .locked reason => .error (.refused reason)
  | .file bytes =>
    match Utf8.decode? bytes with
    | none => .error .notUtf8
    | some s => (RcFile.parse (.ofList s)).mapError .setting

/-- What the first path says under which there is anything. -/
def ofFirst (files : String → Option Entry) : List String → Except ConfigError Settings
  | [] => .ok .empty
  | path :: paths =>
    match files path with
    | none => ofFirst files paths
    | some entry => (ofEntry entry).mapError (.unreadable path)

def isHttp (url : String) : Bool :=
  "http://".toList.isPrefixOf url.toList || "https://".toList.isPrefixOf url.toList

/-- The rest from the defaults. Only then the address loses its last slashes, and a blank key
counts as none. -/
def toConfig (s : Settings) : Except ConfigError ClientConfig :=
  let url := s.url.getD ClientConfig.defaultBaseUrl
  if isHttp url then
    .ok {
      baseUrl := .ofList (Url.dropEndSlashes url.toList)
      apiKey := s.key.filter fun k => !Text.isBlankText k
      timeout := s.timeout.getD ClientConfig.defaultTimeout
      verifyTls := s.verify.getD true }
  else .error (.notHttp url)

end Settings

namespace ClientConfig

/-- The files are looked at only if something is missing. -/
def resolve (given : Settings) (env : Environment) (files : String → Option Entry)
    (candidates : List String) : Except ConfigError ClientConfig := do
  let s ← (given.withEnvironment env).mapError .setting
  if s.isComplete then s.toConfig
  else
    let fromFile ← Settings.ofFirst files candidates
    (s.or fromFile).toConfig

end ClientConfig

end Portal

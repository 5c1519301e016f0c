import Portal.Number.Reader
import Portal.Text.Basic
import Portal.Text.Quoted
import Portal.Time.Duration

/-!
# Client configuration

What a client has to know, and how truth values and timeouts are written in the environment and in
configuration files.
-/

namespace Portal

/-! ## Configurations -/

structure ClientConfig where
  baseUrl : String
  apiKey : Option String
  timeout : Duration
  verifyTls : Bool
  deriving DecidableEq

namespace ClientConfig

def defaultBaseUrl : String := "http://localhost:8080"

def defaultTimeout : Duration := .ofSeconds 30

def default : ClientConfig :=
  ⟨defaultBaseUrl, none, defaultTimeout, true⟩

def ofBaseUrl (url : String) : ClientConfig :=
  { default with baseUrl := url }

def withApiKey (c : ClientConfig) (key : String) : ClientConfig :=
  { c with apiKey := some key }

def withTimeout (c : ClientConfig) (timeout : Duration) : ClientConfig :=
  { c with timeout }

def withVerifyTls (c : ClientConfig) (verifyTls : Bool) : ClientConfig :=
  { c with verifyTls }

/-- For logs: whether there is a key, but not which. -/
def debugText (c : ClientConfig) : String :=
  let key := match c.apiKey with
    | none => "None"
    | some _ => "Some(\"<redacted>\")"
  "ClientConfig \x7b base_url: " ++ Text.quoted c.baseUrl ++ ", api_key: " ++ key ++
    ", timeout: " ++ c.timeout.text ++ ", verify_tls: " ++ toString c.verifyTls ++ " \x7d"

end ClientConfig

/-! ## Settings as text -/

/-- Why a text is no setting. The text in it is the part that was read. -/
inductive SettingFault
  | notBoolean (text : String)
  | timeoutEmpty
  | timeoutNotNumber (text : String)
  | timeoutNotPositive (text : String)
  | timeoutTooLarge (text : String)
  deriving DecidableEq

def SettingFault.message : SettingFault → String
  | .notBoolean text => s!"Invalid boolean value `{text}` (expected true/false or 1/0)"
  | .timeoutEmpty =>
    "Invalid timeout `` (expected seconds): cannot parse float from empty string"
  | .timeoutNotNumber text =>
    s!"Invalid timeout `{text}` (expected seconds): invalid float literal"
  | .timeoutNotPositive text =>
    s!"Invalid timeout `{text}` (must be a positive number of seconds)"
  | .timeoutTooLarge text =>
    s!"Invalid timeout `{text}` (too large): " ++
      "cannot convert float seconds to Duration: value is either too big or NaN"

/-- Blanks around the word and its case do not count. -/
def readBool (s : List Char) : Except SettingFault Bool :=
  let word := String.ofList (Text.lower (Text.trim s))
  match word with
  | "1" | "true" | "yes" | "on" => .ok true
  | "0" | "false" | "no" | "off" => .ok false
  | _ => .error (.notBoolean word)

/-- Seconds, more than none of them. They are read as a double and then rounded to nanoseconds. -/
def readTimeout (s : List Char) : Except SettingFault Duration :=
  let s := Text.trim s
  let text := String.ofList s
  if s.isEmpty then .error .timeoutEmpty
  else
    match Number.Reading.ofChars? s with
    | none => .error (.timeoutNotNumber text)
    | some (.finite x) =>
      if x.value ≤ 0 then .error (.timeoutNotPositive text)
      else
        match Duration.ofSeconds? x.value with
        | some d => .ok d
        | none => .error (.timeoutTooLarge text)
    | some _ => .error (.timeoutNotPositive text)

end Portal

import SessionRecorder.Settings.Environment
import SessionRecorder.Json.Merge
import SessionRecorder.Text.Casing

/-!
Settings from the configuration of the host: laid over the defaults, overridden
by the environment, then validated.
-/

namespace SessionRecorder

inductive SettingsError where
  | malformed (cause : Json.DecodeError)
  /-- A configuration that is neither an object nor null. -/
  | notObject (config : Json)
  | portZero
  | httpPortZero
  | bufferEmpty
  /-- A timeout that is not a positive number. -/
  | timeout (name : String) (value : Double)

def SettingsError.message : SettingsError → String
  | .malformed cause => s!"failed to parse hook config: {cause.message}"
  | .notObject config =>
    s!"invalid settings value: hook config must be an object, got {config.compact}"
  | .portZero => "invalid settings value: cxdbPort must be non-zero"
  | .httpPortZero => "invalid settings value: cxdbHttpPort must be non-zero"
  | .bufferEmpty => "invalid settings value: bufferSize must be at least 1"
  | .timeout name value =>
    "invalid settings value: " ++ name ++ " must be a positive number, got " ++
      value.text Decimal.Layout.plain

namespace Settings

/-- Camel case: no underscores, and a capital behind each of them. The arguments
say whether something was written and whether a capital is due. -/
def camelFrom : Bool → Bool → List Char → List Char
  | _, _, [] => []
  | started, due, c :: rest =>
    if c = '_' then camelFrom started started rest
    else if due then Text.upperChar c ++ camelFrom true false rest
    else c :: camelFrom true false rest

def camelCase (key : String) : String := String.ofList (camelFrom false false key.toList)

/-- The members with keys in camel case, without those whose key begins with an
underscore. -/
def normalizeMembers (members : List (String × Json)) : List (String × Json) :=
  Assoc.ofList <|
    (members.filter fun (key, _) => !(Text.startsWith key "_")).map
      fun (key, value) => (camelCase key, value)

/-- The configuration with normalized keys at its top. -/
def normalizeKeys : Json → Json
  | .object members => .object (normalizeMembers members)
  | config => config

def checkTimeout (name : String) (value : Double) : Except SettingsError Unit :=
  if value.isFinite && value.isPositive then .ok () else .error (.timeout name value)

def validate (s : Settings) : Except SettingsError Unit := do
  if s.port = 0 then .error .portZero
  if s.httpPort = 0 then .error .httpPortZero
  if s.bufferSize = 0 then .error .bufferEmpty
  checkTimeout "connectTimeoutSeconds" s.connectTimeout
  checkTimeout "flushTimeoutSeconds" s.flushTimeout

def ofConfig (config : Json) : Except SettingsError Settings :=
  let decode (data : Json) := (Settings.ofJson data).mapError SettingsError.malformed
  match config with
  | .object _ => decode (Json.merge ({} : Settings).toJson (normalizeKeys config))
  | .null => decode ({} : Settings).toJson
  | other => .error (.notObject other)

def resolved (s : Settings) : Log.Event :=
  .debug "resolved CXDB hook settings" [
    ("host", s.host), ("port", toString s.port),
    ("dedup", s.dedupMode.title), ("shape", s.recordShape.title)]

/-- The settings for a configuration and an environment, with reports. -/
def load (config : Json) (env : Environment) : Except SettingsError Settings × Log.Journal :=
  match ofConfig config with
  | .error e => (.error e, [])
  | .ok s =>
    let (s, journal) := applyEnvironment env s
    match validate s with
    | .error e => (.error e, journal)
    | .ok () => (.ok s, journal ++ [resolved s])

end Settings

end SessionRecorder

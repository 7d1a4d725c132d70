import SessionRecorder.Record.Envelope
import SessionRecorder.Settings.Environment
import SessionRecorder.Uuid

/-!
Which process recorded a context, and on whose behalf.
-/

namespace SessionRecorder

structure Machine where
  instanceId : Uuid
  pid : UInt32
  arch : String
  hostName : Option String

structure Identity where
  serviceName : String
  serviceVersion : Option String
  instanceId : Uuid
  pid : UInt32
  owner : Option String
  hostName : Option String
  hostArch : String
  sdkName : String
  /-- Variables of the environment, in ascending order of their names. -/
  environment : List (String × String)

namespace Identity

/-- The variables of the environment that may be recorded. -/
def allowedVariables : List String := [
  "USER", "HOSTNAME", "HOME", "ENVIRONMENT", "ENV", "STAGE", "AWS_REGION",
  "AWS_DEFAULT_REGION", "GOOGLE_CLOUD_PROJECT", "K8S_NAMESPACE", "K8S_POD_NAME"]

/-- The identity of this process. Empty variables count as absent. -/
def capture (m : Machine) (env : Environment) : Identity where
  serviceName := "amplifier"
  serviceVersion := some "0.1.0"
  instanceId := m.instanceId
  pid := m.pid
  owner := (env.nonEmpty "USER").or (env.nonEmpty "LOGNAME")
  hostName := (env.nonEmpty "HOSTNAME").or m.hostName
  hostArch := m.arch
  sdkName := "amplifier-hooks-cxdb-events"
  environment := Assoc.ofList <| allowedVariables.filterMap fun name =>
    (env.nonEmpty name).map (name, ·)

end Identity

/-- Where a context comes from: its session and what caused it. -/
structure Origin where
  sessionId : String
  parentContext : Option UInt64
  rootContext : Option UInt64
  spawnReason : String
  agent : Option String
  bundle : Option String
  capturedAt : Int64

namespace Provenance

def parentContextTag : UInt64 := 1
def spawnReasonTag : UInt64 := 2
def rootContextTag : UInt64 := 3
def traceTag : UInt64 := 10
def behalfTag : UInt64 := 20
def behalfSourceTag : UInt64 := 21
def serviceNameTag : UInt64 := 40
def serviceVersionTag : UInt64 := 41
def instanceTag : UInt64 := 42
def pidTag : UInt64 := 43
def ownerTag : UInt64 := 44
def hostNameTag : UInt64 := 45
def hostArchTag : UInt64 := 46
def environmentTag : UInt64 := 60
def sdkNameTag : UInt64 := 70
def capturedAtTag : UInt64 := 80

def nonEmpty (s : String) : Option String := if s = "" then none else some s

/-- The variables to record: those of the process, then agent, bundle and session,
which count over variables of the same names. -/
def recordedEnvironment (i : Identity) (o : Origin) : List (String × String) :=
  let own := [
    ("AMPLIFIER_AGENT", o.agent.bind nonEmpty),
    ("AMPLIFIER_BUNDLE", o.bundle.bind nonEmpty),
    ("AMPLIFIER_SESSION", some o.sessionId)]
  (own.filterMap fun (name, value) => value.map (name, ·)).foldl
    (fun env (name, value) => Assoc.insert name value env) i.environment

/-- The provenance of a context. Without a root context its parent counts as root. -/
def payload (i : Identity) (o : Origin) : Payload :=
  .ofFields [
    (parentContextTag, o.parentContext.map .uint),
    (spawnReasonTag, (nonEmpty o.spawnReason).map .str),
    (rootContextTag, (o.rootContext.or o.parentContext).map .uint),
    (traceTag, some (.str o.sessionId)),
    (behalfTag, i.owner.map .str),
    (behalfSourceTag, i.owner.map fun _ => .str "cli"),
    (serviceNameTag, some (.str i.serviceName)),
    (serviceVersionTag, i.serviceVersion.map .str),
    (instanceTag, some (.str i.instanceId.text)),
    (pidTag, some (.uint i.pid.toUInt64)),
    (ownerTag, i.owner.map .str),
    (hostNameTag, i.hostName.map .str),
    (hostArchTag, some (.str i.hostArch)),
    (environmentTag, some (.map ((recordedEnvironment i o).map fun (k, v) => (.str k, .str v)))),
    (sdkNameTag, some (.str i.sdkName)),
    (capturedAtTag, some (.sint o.capturedAt))]

end Provenance

end SessionRecorder

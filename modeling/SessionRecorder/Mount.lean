import SessionRecorder.Router.Handling
import SessionRecorder.Settings.Load
import SessionRecorder.Store.Client
import SessionRecorder.Subscription

/-!
Mounting the recorder into a session: which events it is registered for, and the
router that takes them.
-/

namespace SessionRecorder

structure Session where
  id : String
  parentId : Option String
  /-- Its configuration, which may name the root session. -/
  config : Json
  /-- What other modules announce, or why that cannot be had. -/
  contributions : Except String (List Json)

def Session.lineage (s : Session) : Lineage :=
  .ofIds s.id s.parentId ((s.config.get? "root_session_id").bind Json.asString?)

structure Registration where
  event : String
  priority : Int32
  name : String
deriving DecidableEq

inductive MountError where
  | settings (e : SettingsError)
  | pattern (e : ExcludeError)

def MountError.message : MountError → String
  | .settings e => e.message
  | .pattern e => e.message

structure Mounted (σ ρ : Type) where
  router : Router σ ρ
  registrations : List Registration

namespace Mounted

variable {σ ρ : Type}

def handlerName : String := "cxdb-events"

def events (m : Mounted σ ρ) : List String := m.registrations.map (·.event)

def registered (s : Settings) (events : List String) : Log.Event :=
  .info "CXDB hook registered" [
    ("events", toString events.length), ("priority", toString s.priority.toInt),
    ("host", s.host), ("port", toString s.port.toNat)]

def onStore [ContextStore σ] (session : Session) (s : Settings) (store : σ) (project : String)
    (identity : Identity) (publisher : Option ρ) :
    Except MountError (Mounted σ ρ) × Log.Journal :=
  match Subscription.events session.contributions s with
  | (.error e, journal) => (.error (.pattern e), journal)
  | (.ok events, journal) =>
    (.ok {
      router := .create store session.lineage (.ofSettings s project) identity events
        .createNew publisher
      registrations := events.map fun event => ⟨event, s.priority, handlerName⟩ },
      journal ++ [registered s events])

variable [ContextStore σ] [RegistryPublisher ρ]

/-- Takes an event, if there is a registration for it. -/
def handle? (t : Readings) (event : String) (data : Json) (m : Mounted σ ρ) :
    Option (Mounted σ ρ) :=
  if m.registrations.any (·.event == event) then
    some { m with router := m.router.handleEvent t event data }
  else none

/-- Ends the recording and gives all registrations back. -/
def unmount (time : Int64) (m : Mounted σ ρ) : Mounted σ ρ :=
  { m with router := m.router.cleanUp time, registrations := [] }

end Mounted

/-- Mounts by a configuration and an environment, over the store and the registry
that they name; nothing is mounted where they name none. -/
def mount {ν τ : Type} [Network ν] (session : Session) (config : Json) (env : Environment)
    (project : String) (machine : Machine) (net : ν) (transport : τ) :
    Except MountError (Option (Mounted (Client ν) (HttpPublisher τ))) × Log.Journal :=
  match Settings.load config env with
  | (.error e, journal) => (.error (.settings e), journal)
  | (.ok s, journal) =>
    if s.isEnabled then
      let tag := s.clientTag.getD (clientTag project session.lineage.rootId)
      let client : Client ν := {
        config := {
          host := s.host
          port := s.port
          connectTimeout := Settings.timeout s.connectTimeout
          requestTimeout := Settings.timeout s.flushTimeout
          tag }
        net }
      let publisher : HttpPublisher τ := ⟨s.host, s.httpPort, transport⟩
      let (result, reports) :=
        Mounted.onStore session s client project (.capture machine env) (some publisher)
      (result.map some, journal ++ reports)
    else (.ok none, journal ++ [.debug "no cxdbHost configured, hook disabled" []])

end SessionRecorder

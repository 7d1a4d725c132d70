import SessionRecorder.Log
import SessionRecorder.Registry.Bundle
import SessionRecorder.Text.Utf8

/-!
Publication of the bundle: one request, which the registry answers with a status.
-/

namespace SessionRecorder

inductive RegistryError where
  | noAnswer (detail : String)
  | status (code : Nat) (body : String)
  | invalidBundle (detail : String)
deriving DecidableEq

def RegistryError.message : RegistryError → String
  | .noAnswer detail => s!"registry request failed: {detail}"
  | .status code body => s!"registry publish returned {code}: {body}"
  | .invalidBundle detail => s!"invalid registry bundle: {detail}"

class RegistryPublisher (ρ : Type) where
  publish : ρ → Except RegistryError Unit × Log.Journal × ρ

namespace Registry

structure Request where
  method : String
  url : String
  contentType : String
  body : Bytes

structure Response where
  status : Nat
  body : Bytes

def url (host : String) (port : UInt16) : String :=
  s!"http://{host}:{port.toNat}/v1/registry/bundles/{Bundle.id}"

def request (host : String) (port : UInt16) : Request where
  method := "PUT"
  url := url host port
  contentType := "application/json"
  body := Text.utf8 Bundle.document.compact

/-- The most characters kept of the body of a refusal. -/
def bodyLimit : Nat := 200

/-- Whether a status says that the bundle is there. -/
def accepts (status : Nat) : Bool := status == 201 || status == 204

def outcome : Except String Response → Except RegistryError Unit × Log.Journal
  | .error detail => (.error (.noAnswer detail), [])
  | .ok r =>
    if accepts r.status then
      (.ok (), [.info "registry bundle published"
        [("bundle", Bundle.id), ("status", toString r.status)]])
    else (.error (.status r.status (String.ofList ((Text.lossy r.body).toList.take bodyLimit))), [])

end Registry

/-- What carries requests to a registry and brings the answers. -/
class RegistryTransport (τ : Type) where
  send : Registry.Request → τ → Except String Registry.Response × τ

structure HttpPublisher (τ : Type) where
  host : String
  port : UInt16
  transport : τ

instance {τ : Type} [RegistryTransport τ] : RegistryPublisher (HttpPublisher τ) where
  publish p :=
    let (answer, transport) := RegistryTransport.send (Registry.request p.host p.port) p.transport
    let (result, journal) := Registry.outcome answer
    (result, journal, { p with transport })

/-- A publisher without a registry, which counts its calls and refuses on demand. -/
structure CountingPublisher where
  fails : Bool
  calls : Nat := 0

instance : RegistryPublisher CountingPublisher where
  publish p :=
    (if p.fails then .error (.status 500 "down") else .ok (), [], { p with calls := p.calls + 1 })

end SessionRecorder

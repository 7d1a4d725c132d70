import SessionRecorder.Bytes.Basic
import SessionRecorder.Store.Error

/-!
Connections to a store. A network is a state that decides how every call on it
ends; within one exchange any of them may run out of time.
-/

namespace SessionRecorder

inductive Io (α : Type) where
  | done (result : α)
  | fault (cause : IoFault)
  | timedOut

class Network (ν : Type) where
  Connection : Type
  dial (address : String) : ν → Io Connection × ν
  write (c : Connection) (octets : Bytes) : ν → Io Unit × ν
  read (c : Connection) (count : Nat) : ν → Io Bytes × ν
  hangUp (c : Connection) : ν → ν

/-- Goes on with the result of a call that was done. -/
def Io.andThen {α β ν : Type} (ended : Io α × ν) (next : α → ν → Io β × ν) : Io β × ν :=
  match ended with
  | (.done result, net) => next result net
  | (.fault cause, net) => (.fault cause, net)
  | (.timedOut, net) => (.timedOut, net)

end SessionRecorder

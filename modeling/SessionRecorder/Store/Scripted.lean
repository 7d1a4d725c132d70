import SessionRecorder.Store.Network
import SessionRecorder.Wire.Frame

/-!
A network with one peer, which answers requests by a script. It stands in for a
store's server where a client is tried out.
-/

namespace SessionRecorder

structure ScriptedReply where
  answer : Wire.Frame → Bytes
  closes : Bool

structure ScriptedPeer where
  unreachable : Option IoFault := none
  /-- What it does with the next request; without a reply it closes the connection. -/
  reply : Option ScriptedReply := none
  unread : Bytes := []
  closed : Bool := true
  received : List Wire.Frame := []

namespace ScriptedPeer

def dial (p : ScriptedPeer) : Io Unit × ScriptedPeer :=
  match p.unreachable with
  | some cause => (.fault cause, p)
  | none => (.done (), { p with unread := [], closed := false })

def answer (request : Wire.Frame) (p : ScriptedPeer) : ScriptedPeer :=
  let p := { p with received := p.received ++ [request] }
  if p.closed then p
  else
    match p.reply with
    | none => { p with closed := true }
    | some r => { p with unread := p.unread ++ r.answer request, closed := r.closes }

def write (octets : Bytes) (p : ScriptedPeer) : ScriptedPeer :=
  match Wire.Frame.decode octets with
  | .ok request => p.answer request
  | .error _ => p

/-- Reading more than the peer has written ends with the connection, or with the time. -/
def read (count : Nat) (p : ScriptedPeer) : Io Bytes × ScriptedPeer :=
  if count ≤ p.unread.length then
    (.done (p.unread.take count), { p with unread := p.unread.drop count })
  else (if p.closed then .fault .earlyEnd else .timedOut, { p with unread := [] })

instance : Network ScriptedPeer where
  Connection := Unit
  dial _ := dial
  write _ octets p := (.done (), p.write octets)
  read _ := read
  hangUp _ p := { p with unread := [], closed := true }

end ScriptedPeer

end SessionRecorder

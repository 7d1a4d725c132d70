import SessionRecorder.Store.Basic
import SessionRecorder.Store.Network
import SessionRecorder.Wire.Append

/-!
A store behind a network. Each call is one exchange of frames; an exchange that
fails on the connection ends the connection, so that no later call can take its
answer.
-/

namespace SessionRecorder

open Bytes Wire

structure ClientConfig where
  host : String
  port : UInt16
  connectTimeout : Duration := .ofSeconds 5
  requestTimeout : Duration := .ofSeconds 5
  tag : String := "amplifier-hooks-cxdb"

def ClientConfig.address (c : ClientConfig) : String := s!"{c.host}:{c.port.toNat}"

/-- The body of a handshake: the protocol version, the client's name behind its
length, and an empty field. -/
def handshake (tag : String) : Except WireError Bytes :=
  let octets := Text.utf8 tag
  if octets.length < 2 ^ 16 then
    .ok (ofNatLE 2 protocolVersion.toNat ++ ofNatLE 2 octets.length ++ octets ++ ofNatLE 4 0)
  else .error (.lengthOverflow "client_tag" octets.length)

structure Client (ν : Type) [Network ν] where
  config : ClientConfig
  net : ν
  connection : Option (Network.Connection ν) := none
  lastRequest : UInt64 := 0
  /-- What the store calls the session that the last handshake opened. -/
  session : Option UInt64 := none

namespace Client

variable {ν : Type} [Network ν]

def receive (c : Network.Connection ν) (net : ν) : Io (UInt16 × Bytes) × ν :=
  Io.andThen (Network.read c headerSize net) fun octets net =>
    match Header.decode octets with
    | .error e => (.fault (.invalid e.message), net)
    | .ok h =>
      let length := h.payloadLength.toNat
      if maxPayload < length then (.fault (.oversized length maxPayload), net)
      else if length = 0 then (.done (h.messageType, []), net)
      else Io.andThen (Network.read c length net) fun body net =>
        (.done (h.messageType, body), net)

def converse (c : Network.Connection ν) (frame : Bytes) (net : ν) : Io (UInt16 × Bytes) × ν :=
  Io.andThen (Network.write c frame net) fun _ net => receive c net

/-- What the end of an exchange means: the body of the answer, or why there is none. -/
def outcome (type : MessageType) (limit : Duration) :
    Io (UInt16 × Bytes) → Except StoreError Bytes
  | .done (code, body) =>
    if code = MessageType.error.code then
      let (code, detail) := decodeError body
      .error (.protocol code detail)
    else .ok body
  | .fault cause => .error (.connectionLost cause)
  | .timedOut => .error (.timeout type.name limit)

def exchange (c : Network.Connection ν) (type : MessageType) (id : UInt64) (body : Bytes)
    (limit : Duration) (net : ν) : Except StoreError Bytes × ν :=
  match Frame.encode? ⟨type.code, 0, id, body⟩ with
  | .error e => (.error (.wire e), net)
  | .ok frame =>
    let (ended, net) := converse c frame net
    (outcome type limit ended, net)

def close (s : Client ν) : Client ν :=
  match s.connection with
  | some c => { s with net := Network.hangUp c s.net, connection := none, session := none }
  | none => { s with session := none }

/-- Opens a session on a new connection, and hangs up if that fails. -/
def greet (c : Network.Connection ν) (s : Client ν) : Except StoreError Unit × Client ν :=
  match handshake s.config.tag with
  | .error e => (.error (.wire e), { s with net := Network.hangUp c s.net })
  | .ok body =>
    let id := s.lastRequest + 1
    let (result, net) := exchange c .hello id body s.config.requestTimeout s.net
    match result with
    | .error e => (.error e, { s with net := Network.hangUp c net, lastRequest := id })
    | .ok answer =>
      let session := if 8 ≤ answer.length then some (.ofNat (fieldLE 0 8 answer)) else none
      (.ok (), { s with net, connection := some c, lastRequest := id, session })

/-- Ends the connection that there is, and opens a new one. -/
def connect (s : Client ν) : Except StoreError Unit × Client ν :=
  let s := s.close
  match Network.dial s.config.address s.net with
  | (.timedOut, net) => (.error (.timeout "connect" s.config.connectTimeout), { s with net })
  | (.fault cause, net) => (.error (.connect s.config.address cause), { s with net })
  | (.done c, net) => greet c { s with net }

/-- One call. A failure of the connection ends it. -/
def request (type : MessageType) (body : Bytes) (s : Client ν) :
    Except StoreError Bytes × Client ν :=
  match s.connection with
  | none => (.error .notConnected, s)
  | some c =>
    let id := s.lastRequest + 1
    let (result, net) := exchange c type id body s.config.requestTimeout s.net
    match result with
    | .error e =>
      if e.isConnection then
        (.error e, { s with net := Network.hangUp c net, connection := none, lastRequest := id })
      else (.error e, { s with net, lastRequest := id })
    | .ok answer => (.ok answer, { s with net, lastRequest := id })

/-- An answer that has all its fields. -/
def require (type : MessageType) (need : Nat) (answer : Bytes) : Except StoreError Bytes :=
  if answer.length < need then .error (.malformed type.name answer.length need) else .ok answer

def contextHead (type : MessageType) (answer : Bytes) : Except StoreError ContextHead :=
  (require type 20 answer).map fun octets =>
    ⟨.ofNat (fieldLE 0 8 octets), .ofNat (fieldLE 8 8 octets), .ofNat (fieldLE 16 4 octets)⟩

def turnHead (answer : Bytes) : Except StoreError TurnHead :=
  (require .getHead 12 answer).map fun octets =>
    ⟨.ofNat (fieldLE 0 8 octets), .ofNat (fieldLE 8 4 octets)⟩

def ask {α : Type} (type : MessageType) (id : UInt64) (decode : Bytes → Except StoreError α)
    (s : Client ν) : Except StoreError α × Client ν :=
  let (answer, s) := s.request type (ofNatLE 8 id.toNat)
  (answer.bind decode, s)

def append (parent : UInt64) (d : Delivery) (s : Client ν) :
    Except StoreError ContextHead × Client ν :=
  if s.connection.isNone then (.error .notConnected, s)
  else
    match (AppendRequest.ofPayload d.context parent d.type.id d.type.version d.payload).encode with
    | .error e => (.error (.wire e), s)
    | .ok body =>
      let (answer, s) := s.request .appendTurn body
      (answer.bind (contextHead .appendTurn), s)

instance : ContextStore (Client ν) where
  isConnected s := s.connection.isSome
  clientTag s := s.config.tag
  connect := connect
  create base := ask .createContext base (contextHead .createContext)
  fork base := ask .forkContext base (contextHead .forkContext)
  head context := ask .getHead context turnHead
  append := append
  close := close

end Client

end SessionRecorder

import SessionRecorder.Proofs.CheckedReads
import SessionRecorder.Proofs.ClientTraffic
import SessionRecorder.Proofs.NetworkViews

/-!
A client against a peer that sends what it likes. The client is written once more with checked
reads, and every run gives what it gave, so that no read of a run fails. A network that counts shows
that the client never asks for more octets than a payload may have. Main statement:
`hostile_peer_harmless`.
-/

namespace SessionRecorder

open Bytes Wire

/-! ## The client with checked reads -/

/-- As `Io.andThen`, where a read of what comes next may fail. -/
def Io.andThen? {α β ν : Type} (ended : Io α × ν) (next : α → ν → Option (Io β × ν)) :
    Option (Io β × ν) :=
  match ended with
  | (.done result, net) => next result net
  | (.fault cause, net) => some (.fault cause, net)
  | (.timedOut, net) => some (.timedOut, net)

theorem Io.andThen?_eq {α β ν : Type} (ended : Io α × ν) {next? : α → ν → Option (Io β × ν)}
    {next : α → ν → Io β × ν} (h : ∀ a net, next? a net = some (next a net)) :
    Io.andThen? ended next? = some (Io.andThen ended next) := by
  rcases ended with ⟨result | cause | _, net⟩
  · exact h result net
  · rfl
  · rfl

namespace Client

variable {ν : Type} [Network ν]

def receive? (c : Network.Connection ν) (net : ν) : Option (Io (UInt16 × Bytes) × ν) :=
  Io.andThen? (Network.read c headerSize net) fun octets net => do
    match ← Header.decode? octets with
    | .error e => return (.fault (.invalid e.message), net)
    | .ok h =>
      let length := h.payloadLength.toNat
      if maxPayload < length then return (.fault (.oversized length maxPayload), net)
      else if length = 0 then return (.done (h.messageType, []), net)
      else return Io.andThen (Network.read c length net) fun body net =>
        (.done (h.messageType, body), net)

def converse? (c : Network.Connection ν) (frame : Bytes) (net : ν) :
    Option (Io (UInt16 × Bytes) × ν) :=
  Io.andThen? (Network.write c frame net) fun _ net => receive? c net

def outcome? (type : MessageType) (limit : Duration) :
    Io (UInt16 × Bytes) → Option (Except StoreError Bytes)
  | .done (code, body) =>
    if code = MessageType.error.code then do
      let (code, detail) ← decodeError? body
      return .error (.protocol code detail)
    else some (.ok body)
  | .fault cause => some (.error (.connectionLost cause))
  | .timedOut => some (.error (.timeout type.name limit))

def exchange? (c : Network.Connection ν) (type : MessageType) (id : UInt64) (body : Bytes)
    (limit : Duration) (net : ν) : Option (Except StoreError Bytes × ν) :=
  match Frame.encode? ⟨type.code, 0, id, body⟩ with
  | .error e => some (.error (.wire e), net)
  | .ok frame => do
    let (ended, net) ← converse? c frame net
    return (← outcome? type limit ended, net)

def greet? (c : Network.Connection ν) (s : Client ν) :
    Option (Except StoreError Unit × Client ν) :=
  match handshake s.config.tag with
  | .error e => some (.error (.wire e), { s with net := Network.hangUp c s.net })
  | .ok body => do
    let id := s.lastRequest + 1
    let (result, net) ← exchange? c .hello id body s.config.requestTimeout s.net
    match result with
    | .error e => return (.error e, { s with net := Network.hangUp c net, lastRequest := id })
    | .ok answer =>
      let session ← sessionOf? answer
      return (.ok (), { s with net, connection := some c, lastRequest := id, session })

def connect? (s : Client ν) : Option (Except StoreError Unit × Client ν) :=
  let s := s.close
  match Network.dial s.config.address s.net with
  | (.timedOut, net) => some (.error (.timeout "connect" s.config.connectTimeout), { s with net })
  | (.fault cause, net) => some (.error (.connect s.config.address cause), { s with net })
  | (.done c, net) => greet? c { s with net }

def request? (type : MessageType) (body : Bytes) (s : Client ν) :
    Option (Except StoreError Bytes × Client ν) :=
  match s.connection with
  | none => some (.error .notConnected, s)
  | some c => do
    let id := s.lastRequest + 1
    let (result, net) ← exchange? c type id body s.config.requestTimeout s.net
    match result with
    | .error e =>
      if e.isConnection then
        return (.error e,
          { s with net := Network.hangUp c net, connection := none, lastRequest := id })
      else return (.error e, { s with net, lastRequest := id })
    | .ok answer => return (.ok answer, { s with net, lastRequest := id })

/-- What an answer is read as, if there is an answer. -/
def answered? {α : Type} (decode? : Bytes → Option (Except StoreError α)) :
    Except StoreError Bytes → Option (Except StoreError α)
  | .error e => some (.error e)
  | .ok answer => decode? answer

def ask? {α : Type} (type : MessageType) (id : UInt64)
    (decode? : Bytes → Option (Except StoreError α)) (s : Client ν) :
    Option (Except StoreError α × Client ν) := do
  let (answer, s) ← s.request? type (ofNatLE 8 id.toNat)
  return (← answered? decode? answer, s)

def append? (parent : UInt64) (d : Delivery) (s : Client ν) :
    Option (Except StoreError ContextHead × Client ν) :=
  if s.connection.isNone then some (.error .notConnected, s)
  else
    match (AppendRequest.ofPayload d.context parent d.type.id d.type.version d.payload).encode with
    | .error e => some (.error (.wire e), s)
    | .ok body => do
      let (answer, s) ← s.request? .appendTurn body
      return (← answered? (contextHead? .appendTurn) answer, s)

/-- Makes a call. -/
def perform? (call : StoreCall) (s : Client ν) :
    Option (Except StoreError StoreAnswer × Client ν) :=
  match call with
  | .connect => do
    let (result, s) ← s.connect?
    return (result.map fun _ => .nothing, s)
  | .close => some (.ok .nothing, s.close)
  | .create base => do
    let (result, s) ← ask? .createContext base (contextHead? .createContext) s
    return (result.map .context, s)
  | .fork base => do
    let (result, s) ← ask? .forkContext base (contextHead? .forkContext) s
    return (result.map .context, s)
  | .head context => do
    let (result, s) ← ask? .getHead context turnHead? s
    return (result.map .turn, s)
  | .append parent d => do
    let (result, s) ← s.append? parent d
    return (result.map .context, s)

/-- The calls of a run with their results, if no read of the run fails. -/
def results? : List StoreCall → Client ν →
    Option (List (StoreCall × Except StoreError StoreAnswer))
  | [], _ => some []
  | call :: rest, s => do
    let (result, s) ← perform? call s
    return (call, result) :: (← results? rest s)

/-! ## No read fails -/

theorem receive?_eq (c : Network.Connection ν) (net : ν) :
    receive? c net = some (receive c net) := by
  refine Io.andThen?_eq _ fun octets net => ?_
  rw [Header.decode?_eq]
  cases Header.decode octets with
  | error e => rfl
  | ok h =>
    simp only [Option.bind_eq_bind, Option.bind_some]
    split
    · rfl
    · split <;> rfl

theorem converse?_eq (c : Network.Connection ν) (frame : Bytes) (net : ν) :
    converse? c frame net = some (converse c frame net) :=
  Io.andThen?_eq _ fun _ => receive?_eq c

theorem outcome?_eq (type : MessageType) (limit : Duration) (ended : Io (UInt16 × Bytes)) :
    outcome? type limit ended = some (outcome type limit ended) := by
  rcases ended with ⟨code, body⟩ | cause | _
  · unfold outcome? outcome
    simp only [decodeError?_eq]
    split <;> rfl
  · rfl
  · rfl

theorem exchange?_eq (c : Network.Connection ν) (type : MessageType) (id : UInt64) (body : Bytes)
    (limit : Duration) (net : ν) :
    exchange? c type id body limit net = some (exchange c type id body limit net) := by
  unfold exchange? exchange
  cases Frame.encode? ⟨type.code, 0, id, body⟩ with
  | error e => rfl
  | ok frame =>
    simp only [converse?_eq, Option.bind_eq_bind, Option.bind_some, outcome?_eq]
    rfl

theorem greet?_eq (c : Network.Connection ν) (s : Client ν) : greet? c s = some (greet c s) := by
  unfold greet? greet
  cases handshake s.config.tag with
  | error e => rfl
  | ok body =>
    simp only [exchange?_eq, Option.bind_eq_bind, Option.bind_some]
    cases (exchange c .hello (s.lastRequest + 1) body s.config.requestTimeout s.net).1 with
    | error e => rfl
    | ok answer =>
      simp only [sessionOf?_eq, Option.bind_some]
      rfl

theorem connect?_eq (s : Client ν) : s.connect? = some s.connect := by
  unfold connect? connect
  simp only
  rcases Network.dial s.close.config.address s.close.net with ⟨c | cause | _, net⟩
  · exact greet?_eq c _
  · rfl
  · rfl

theorem request?_eq (type : MessageType) (body : Bytes) (s : Client ν) :
    s.request? type body = some (s.request type body) := by
  unfold request? request
  cases s.connection with
  | none => rfl
  | some c =>
    simp only [exchange?_eq, Option.bind_eq_bind, Option.bind_some]
    cases (exchange c type (s.lastRequest + 1) body s.config.requestTimeout s.net).1 with
    | ok answer => rfl
    | error e =>
      simp only
      split <;> rfl

omit [Network ν] in
theorem answered?_eq {α : Type} {decode? : Bytes → Option (Except StoreError α)}
    {decode : Bytes → Except StoreError α} (h : ∀ answer, decode? answer = some (decode answer))
    (answer : Except StoreError Bytes) : answered? decode? answer = some (answer.bind decode) := by
  cases answer with
  | error e => rfl
  | ok answer => exact h answer

theorem ask?_eq {α : Type} (type : MessageType) (id : UInt64)
    {decode? : Bytes → Option (Except StoreError α)} {decode : Bytes → Except StoreError α}
    (h : ∀ answer, decode? answer = some (decode answer)) (s : Client ν) :
    ask? type id decode? s = some (ask type id decode s) := by
  unfold ask? ask
  simp only [request?_eq, answered?_eq h, Option.bind_eq_bind, Option.bind_some]
  rfl

theorem append?_eq (parent : UInt64) (d : Delivery) (s : Client ν) :
    s.append? parent d = some (s.append parent d) := by
  unfold append? append
  split
  · rfl
  · cases (AppendRequest.ofPayload d.context parent d.type.id d.type.version d.payload).encode with
    | error e => rfl
    | ok body =>
      simp only [request?_eq, answered?_eq (contextHead?_eq .appendTurn), Option.bind_eq_bind,
        Option.bind_some]
      rfl

/-- A call ends, whatever is on the network, and as it does with unchecked reads. -/
theorem perform?_eq (call : StoreCall) (s : Client ν) :
    perform? call s = some (call.perform s) := by
  cases call with
  | connect =>
    simp only [perform?, connect?_eq, Option.bind_eq_bind, Option.bind_some]
    rfl
  | close => rfl
  | create base | fork base =>
    simp only [perform?, ask?_eq _ _ (contextHead?_eq _), Option.bind_eq_bind, Option.bind_some]
    rfl
  | head context =>
    simp only [perform?, ask?_eq _ _ turnHead?_eq, Option.bind_eq_bind, Option.bind_some]
    rfl
  | append parent d =>
    simp only [perform?, append?_eq, Option.bind_eq_bind, Option.bind_some]
    rfl

theorem results?_eq (calls : List StoreCall) (s : Client ν) :
    results? calls s = some (StoreCall.results calls s) := by
  induction calls generalizing s with
  | nil => rfl
  | cons call rest ih =>
    simp only [results?, perform?_eq, ih, Option.bind_eq_bind, Option.bind_some]
    rfl

end Client

/-! ## How much is read -/

/-- A network with the numbers of octets that it was asked for. -/
structure Metered (ν : Type) where
  net : ν
  asked : List Nat := []

namespace Metered

variable {ν : Type} [Network ν]

instance : Network (Metered ν) where
  Connection := Network.Connection ν
  dial address t :=
    let (ended, net) := Network.dial address t.net
    (ended, { t with net })
  write c octets t :=
    let (ended, net) := Network.write (ν := ν) c octets t.net
    (ended, { t with net })
  read c count t :=
    let (ended, net) := Network.read (ν := ν) c count t.net
    (ended, { net, asked := t.asked ++ [count] })
  hangUp c t := { t with net := Network.hangUp (ν := ν) c t.net }

/-- What was asked for decides nothing. -/
def view : View (Metered ν) ν where
  net := net
  connection := id
  dial address t := by
    change Network.dial address t.net = ((Network.dial address t.net).1.map id, _)
    rw [Io.map_id]
    rfl
  write _ _ _ := rfl
  read _ _ _ := rfl
  hangUp _ _ := rfl

/-- It was never asked for more octets than a payload may have. -/
def Bounded (t : Metered ν) : Prop := ∀ count ∈ t.asked, count ≤ maxPayload

theorem Bounded.read {t : Metered ν} (h : t.Bounded) (c : Network.Connection ν) {count : Nat}
    (hcount : count ≤ maxPayload) : (Network.read (ν := Metered ν) c count t).2.Bounded := by
  intro n hn
  rcases List.mem_append.1 hn with hold | hnew
  · exact h n hold
  · rw [List.mem_singleton.1 hnew]
    exact hcount

end Metered

namespace Client

variable {ν : Type} [Network ν]

/-- The client on the same network, which begins to count. -/
def metered (s : Client ν) : Client (Metered ν) where
  config := s.config
  net := { net := s.net }
  connection := s.connection
  lastRequest := s.lastRequest
  session := s.session

theorem results_metered (calls : List StoreCall) (s : Client ν) :
    StoreCall.results calls s.metered = StoreCall.results calls s := by
  have hseen : Metered.view.client s.metered = s := by
    cases s
    simp only [View.client, metered, Metered.view, Option.map_id_fun, id_eq]
  rw [← Metered.view.results_client, hseen]

/-- A header has sixteen octets, and a body that is asked for has passed its check. -/
theorem receive_bounded (c : Network.Connection ν) {t : Metered ν} (h : t.Bounded) :
    (receive (ν := Metered ν) c t).2.Bounded := by
  refine andThen_keeps (fun octets t ht => ?_) (h.read c (by decide))
  cases Header.decode octets with
  | error e => exact ht
  | ok h =>
    simp only
    split
    · exact ht
    · rename_i hlength
      split
      · exact ht
      · exact andThen_keeps (fun _ _ hnet => hnet) (ht.read c (Nat.not_lt.1 hlength))

theorem keeps_bounded (types : MessageType → Prop) :
    Keeps types (Metered.Bounded (ν := ν)) where
  hangUp _ _ h := h
  dial _ _ h := h
  converse c _ _ _ _ _ _ h := andThen_keeps (fun _ _ => receive_bounded (ν := ν) c) h

theorem run_bounded (calls : List StoreCall) (s : Client ν) :
    (StoreCall.run calls s.metered).net.Bounded := by
  have hstart : s.metered.net.Bounded := fun _ h => absurd h List.not_mem_nil
  exact StoreCall.run_keeps (P := fun t : Client (Metered ν) => t.net.Bounded)
    (fun _ _ ht => (keeps_bounded _).perform ht) calls hstart

/-- Whatever a peer sends, and wherever it stops, every call of a client ends with an answer or an
error: no read of its run fails, none asks for more octets than a payload may have, and counting
what is asked for changes no result. The body of an error answer gives the code and the detail that
it was written from, with any octets behind them; a length that runs past the end stands for all
that there is; less than eight octets are a detail without a code. -/
theorem hostile_peer_harmless (calls : List StoreCall) (s : Client ν) (code : UInt32) (n : Nat)
    (detail : String) (octets : Bytes) :
    results? calls s = some (StoreCall.results calls s) ∧
    (StoreCall.results calls s.metered = StoreCall.results calls s ∧
      ∀ count ∈ (StoreCall.run calls s.metered).net.asked, count ≤ maxPayload) ∧
    ((Text.utf8 detail).length < 2 ^ 32 →
      decodeError (ofNatLE 4 code.toNat ++ ofNatLE 4 (Text.utf8 detail).length ++
        (Text.utf8 detail ++ octets)) = (some code, detail)) ∧
    (n < 2 ^ 32 → octets.length ≤ n →
      decodeError (ofNatLE 4 code.toNat ++ ofNatLE 4 n ++ octets) =
        (some code, Text.lossy octets)) ∧
    (octets.length < 8 → decodeError octets = (none, Text.lossy octets)) ∧
    Text.lossy (Text.utf8 detail) = detail :=
  ⟨results?_eq calls s, ⟨results_metered calls s, run_bounded calls s⟩,
    fun h => decodeError_detail code h octets, fun hn => decodeError_clamped code hn,
    decodeError_short, Text.lossy_utf8 detail⟩

namespace Sample

/-- A peer that answers with these octets and closes the connection. -/
def sends (octets : Bytes) : Client ScriptedPeer where
  config := config
  net := { reply := some ⟨fun _ => octets, true⟩ }

/-- An error whose detail is said to be longer than any frame. -/
def longDetail : Bytes :=
  ofNatLE 4 404 ++ ofNatLE 4 0xFFFFFFFF ++ Text.utf8 "no such turn"

end Sample

/-- An error that overstates its detail is read as far as it goes; a header that announces four
gigabytes ends the connection before they are read, and so does a header cut short. -/
theorem overstated_detail_harmless :
    results? [.connect, .head 1] (Sample.sends (Frame.encode ⟨255, 0, 1, Sample.longDetail⟩)) =
      some [(.connect, .error (.protocol (some 404) "no such turn")),
        (.head 1, .error .notConnected)] ∧
    (results? [.connect] (Sample.sends (List.replicate 20 255)) =
      some [(.connect, .error (.connectionLost (.oversized 4294967295 maxPayload)))] ∧
      ∀ count ∈ (StoreCall.run [.connect]
        (Sample.sends (List.replicate 20 255)).metered).net.asked, count ≤ maxPayload) ∧
    results? [.connect] (Sample.sends [1, 0, 0]) =
      some [(.connect, .error (.connectionLost .earlyEnd))] ∧
    decodeError (ofNatLE 4 404 ++ ofNatLE 4 (Text.utf8 "no such turn").length ++
      (Text.utf8 "no such turn" ++ [255, 0])) = (some 404, "no such turn") ∧
    decodeError (ofNatLE 4 404 ++ ofNatLE 4 0xFFFFFFFF ++ [255, 0]) =
      (some 404, Text.lossy [255, 0]) ∧
    decodeError [255, 0] = (none, Text.lossy [255, 0]) := by
  obtain ⟨hlong, -, hdetail, hclamped, hshort, -⟩ := hostile_peer_harmless [.connect, .head 1]
    (Sample.sends (Frame.encode ⟨255, 0, 1, Sample.longDetail⟩)) 404 0xFFFFFFFF "no such turn"
    [255, 0]
  obtain ⟨hflood, ⟨-, hasked⟩, -⟩ :=
    hostile_peer_harmless [.connect] (Sample.sends (List.replicate 20 255)) 0 0 "" []
  obtain ⟨hcut, -⟩ := hostile_peer_harmless [.connect] (Sample.sends [1, 0, 0]) 0 0 "" []
  exact ⟨hlong, ⟨hflood, hasked⟩, hcut, hdetail (by decide), hclamped (by decide) (by decide),
    hshort (by decide)⟩

end Client

end SessionRecorder

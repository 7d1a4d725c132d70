import SessionRecorder.Proofs.StoreCalls
import SessionRecorder.Store.Client

/-!
A network that does more than another, and shows in all that it answers no more than the other
does. A client cannot tell the two apart: its calls end the same (`View.results_client`).
-/

namespace SessionRecorder

open Bytes Wire

def Io.map {α β : Type} (f : α → β) : Io α → Io β
  | .done result => .done (f result)
  | .fault cause => .fault cause
  | .timedOut => .timedOut

theorem Io.map_id {α : Type} (ended : Io α) : ended.map id = ended := by
  cases ended <;> rfl

/-- A view of one network as another: a call on the first is answered as on the second, and what is
seen of the first behind it is the second. -/
structure View (μ ν : Type) [Network μ] [Network ν] where
  net : μ → ν
  connection : Network.Connection μ → Network.Connection ν
  dial (address : String) (t : μ) : Network.dial address (net t) =
    (Network.dial address t).map (Io.map connection) net
  write (c : Network.Connection μ) (octets : Bytes) (t : μ) :
    Network.write (connection c) octets (net t) = (Network.write c octets t).map id net
  read (c : Network.Connection μ) (count : Nat) (t : μ) :
    Network.read (connection c) count (net t) = (Network.read c count t).map id net
  hangUp (c : Network.Connection μ) (t : μ) :
    Network.hangUp (connection c) (net t) = net (Network.hangUp c t)

namespace View

variable {μ ν : Type} [Network μ] [Network ν] (v : View μ ν)

/-- A client as it is seen. -/
def client (s : Client μ) : Client ν where
  config := s.config
  net := v.net s.net
  connection := s.connection.map v.connection
  lastRequest := s.lastRequest
  session := s.session

theorem andThen {α β : Type} (ended : Io α × μ) {next : α → μ → Io β × μ}
    {next' : α → ν → Io β × ν} (h : ∀ a t, next' a (v.net t) = (next a t).map id v.net) :
    Io.andThen (ended.map id v.net) next' = (Io.andThen ended next).map id v.net := by
  rcases ended with ⟨result | cause | _, t⟩
  · exact h result t
  · rfl
  · rfl

section

variable (c : Network.Connection μ) (type : MessageType) (n : UInt64) (body : Bytes)
  (limit : Duration)

theorem receive (t : μ) :
    Client.receive (v.connection c) (v.net t) = (Client.receive c t).map id v.net := by
  unfold Client.receive
  rw [v.read]
  refine v.andThen _ fun octets t => ?_
  cases Header.decode octets with
  | error e => rfl
  | ok h =>
    simp only
    split
    · rfl
    · split
      · rfl
      · rw [v.read]
        exact v.andThen _ fun body t => rfl

theorem converse (frame : Bytes) (t : μ) :
    Client.converse (v.connection c) frame (v.net t) =
      (Client.converse c frame t).map id v.net := by
  unfold Client.converse
  rw [v.write]
  exact v.andThen _ fun _ t => v.receive c t

theorem exchange (t : μ) : Client.exchange (v.connection c) type n body limit (v.net t) =
    (Client.exchange c type n body limit t).map id v.net := by
  unfold Client.exchange
  cases Frame.encode? ⟨type.code, 0, n, body⟩ with
  | error e => rfl
  | ok frame =>
    simp only [v.converse]
    rfl

end

theorem close (s : Client μ) : (v.client s).close = v.client s.close := by
  unfold Client.close client
  cases s.connection with
  | none => rfl
  | some c => simp only [Option.map_some, v.hangUp, Option.map_none]

theorem request (type : MessageType) (body : Bytes) (s : Client μ) :
    (v.client s).request type body = (s.request type body).map id v.client := by
  unfold Client.request
  cases hconnection : s.connection with
  | none => simp only [client, hconnection, Option.map_none, Prod.map_apply, id_eq]
  | some c =>
    simp only [client, hconnection, Option.map_some, v.exchange, Prod.map_fst, Prod.map_snd, id_eq]
    cases (Client.exchange c type (s.lastRequest + 1) body s.config.requestTimeout s.net).1 with
    | ok answer => rfl
    | error e =>
      simp only [v.hangUp]
      split <;> rfl

theorem greet (c : Network.Connection μ) (s : Client μ) :
    Client.greet (v.connection c) (v.client s) = (Client.greet c s).map id v.client := by
  unfold Client.greet
  simp only [client]
  cases handshake s.config.tag with
  | error e =>
    simp only [v.hangUp]
    rfl
  | ok body =>
    simp only [v.exchange, Prod.map_fst, Prod.map_snd, id_eq]
    cases (Client.exchange c .hello (s.lastRequest + 1) body s.config.requestTimeout s.net).1 with
    | ok answer => rfl
    | error e =>
      simp only [v.hangUp]
      rfl

theorem connect (s : Client μ) : (v.client s).connect = s.connect.map id v.client := by
  unfold Client.connect
  simp only [v.close]
  have hdial : Network.dial (v.client s.close).config.address (v.client s.close).net =
      (Network.dial s.close.config.address s.close.net).map (Io.map v.connection) v.net :=
    v.dial _ _
  rw [hdial]
  rcases Network.dial s.close.config.address s.close.net with ⟨c | cause | _, t⟩
  · exact v.greet c { s.close with net := t }
  · rfl
  · rfl

theorem append (parent : UInt64) (d : Delivery) (s : Client μ) :
    (v.client s).append parent d = (s.append parent d).map id v.client := by
  unfold Client.append
  have hconnection : (v.client s).connection.isNone = s.connection.isNone :=
    Option.isNone_map ..
  rw [hconnection]
  split
  · rfl
  · split
    · rfl
    · simp only [v.request]
      rfl

/-- A call ends as it does on the network that is seen. -/
theorem perform (call : StoreCall) (s : Client μ) :
    call.perform (v.client s) = (call.perform s).map id v.client := by
  have hask {α : Type} (type : MessageType) (n : UInt64) (decode : Bytes → Except StoreError α) :
      Client.ask type n decode (v.client s) = (Client.ask type n decode s).map id v.client := by
    unfold Client.ask
    rw [v.request]
    rfl
  cases call with
  | connect =>
    simp only [StoreCall.perform, ContextStore.connect, v.connect]
    rfl
  | close => exact congrArg (Except.ok StoreAnswer.nothing, ·) (v.close s)
  | create base | fork base | head context =>
    simp only [StoreCall.perform, ContextStore.create, ContextStore.fork, ContextStore.head, hask]
    rfl
  | append parent d =>
    simp only [StoreCall.perform, ContextStore.append, v.append]
    rfl

theorem results_client (calls : List StoreCall) (s : Client μ) :
    StoreCall.results calls (v.client s) = StoreCall.results calls s := by
  induction calls generalizing s with
  | nil => rfl
  | cons call rest ih =>
    simp only [StoreCall.results, v.perform, Prod.map_fst, Prod.map_snd, ih, id_eq]

end View

end SessionRecorder

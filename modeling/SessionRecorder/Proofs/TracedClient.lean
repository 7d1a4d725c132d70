import SessionRecorder.Proofs.ClientTraffic
import SessionRecorder.Proofs.NetworkViews
import SessionRecorder.Proofs.RequestBodies

/-!
The octets that a client sends on each of its connections. A call that reaches a connection puts at
most one frame on it, its request, which only a failure of the connection can cut short; no other
call sends anything (`perform_effect`).
-/

namespace SessionRecorder

open Bytes Wire

/-- A network with the octets that were sent on each connection. -/
structure Traced (ν : Type) where
  net : ν
  /-- How many octets a write sends that then fails, by the number of writes before it. -/
  cut : Nat → Nat
  writes : Nat := 0
  /-- What was sent on each connection, in the order in which they were opened. -/
  lines : List Bytes := []

namespace Traced

variable {ν : Type}

/-- What a write sends that ends so. -/
def sent (octets : Bytes) (t : Traced ν) : Io Unit → Bytes
  | .done () => octets
  | .fault _ | .timedOut => octets.take (t.cut t.writes)

theorem sent_part (octets : Bytes) (t : Traced ν) (ended : Io Unit) :
    t.sent octets ended <+: octets := by
  cases ended with
  | done => exact List.prefix_refl _
  | fault | timedOut => exact List.take_prefix _ _

variable [Network ν]

def dial (address : String) (t : Traced ν) : Io (Nat × Network.Connection ν) × Traced ν :=
  match Network.dial address t.net with
  | (.done c, net) => (.done (t.lines.length, c), { t with net, lines := t.lines ++ [[]] })
  | (.fault cause, net) => (.fault cause, { t with net })
  | (.timedOut, net) => (.timedOut, { t with net })

/-- A new connection is the last, and nothing was sent on it. -/
theorem dial_cases (address : String) (t : Traced ν) :
    (∃ c net, t.dial address =
      (.done (t.lines.length, c), { t with net, lines := t.lines ++ [[]] })) ∨
    (∃ cause net, t.dial address = (.fault cause, { t with net })) ∨
    ∃ net, t.dial address = (.timedOut, { t with net }) := by
  unfold dial
  rcases Network.dial address t.net with ⟨c | cause | _, net⟩
  · exact .inl ⟨c, net, rfl⟩
  · exact .inr (.inl ⟨cause, net, rfl⟩)
  · exact .inr (.inr ⟨net, rfl⟩)

instance : Network (Traced ν) where
  Connection := Nat × Network.Connection ν
  dial := dial
  write c octets t :=
    let (ended, net) := Network.write c.2 octets t.net
    (ended, { t with
      net
      writes := t.writes + 1
      lines := t.lines.modify c.1 (· ++ t.sent octets ended) })
  read c count t :=
    let (ended, net) := Network.read c.2 count t.net
    (ended, { t with net })
  hangUp c t := { t with net := Network.hangUp c.2 t.net }

/-- What is sent decides nothing. -/
def view : View (Traced ν) ν where
  net := net
  connection := Prod.snd
  dial address t := by
    change _ = (t.dial address).map _ _
    unfold dial
    rcases Network.dial address t.net with ⟨c | cause | _, net⟩ <;> rfl
  write _ _ _ := rfl
  read _ _ _ := rfl
  hangUp _ _ := rfl

end Traced

/-- A client of a traced network that has made no call. -/
def Client.traced {ν : Type} [Network ν] (config : ClientConfig) (net : ν) (cut : Nat → Nat) :
    Client (Traced ν) where
  config
  net := { net, cut }

theorem modify_nothing (lines : List Bytes) (i : Nat) : lines.modify i (· ++ []) = lines := by
  simp only [List.append_nil]
  exact List.modify_id _ _

def StoreError.isWire : StoreError → Bool
  | .wire _ => true
  | _ => false

/-- What a call has put on a connection: its request, unless it cannot be written, and all of it
unless the connection has failed. -/
inductive Puts {α : Type} (P : Frame → Prop) : Except StoreError α → List Frame → Bytes → Prop where
  | nothing {e : StoreError} (he : e.isWire = true) : Puts P (.error e) [] []
  | whole {result : Except StoreError α} {f : Frame} (hf : P f)
      (hlength : f.payload.length < 2 ^ 32)
      (hresult : ∀ e, result = .error e → e.isWire = false) : Puts P result [f] f.encode
  | cut {e : StoreError} {f : Frame} {part : Bytes} (hf : P f) (hlength : f.payload.length < 2 ^ 32)
      (he : e.isConnection = true) (hpart : part <+: f.encode) (hcut : part ≠ f.encode) :
      Puts P (.error e) [f] part

namespace Puts

variable {α β : Type} {P Q : Frame → Prop} {result : Except StoreError α} {frames : List Frame}
  {octets : Bytes}

theorem imp (hPQ : ∀ f, P f → Q f) (h : Puts P result frames octets) :
    Puts Q result frames octets := by
  cases h with
  | nothing he => exact .nothing he
  | whole hf hlength hresult => exact .whole (hPQ _ hf) hlength hresult
  | cut hf hlength he hpart hcut => exact .cut (hPQ _ hf) hlength he hpart hcut

/-- What an answer is read as changes nothing. -/
theorem bind {decode : α → Except StoreError β}
    (hdecode : ∀ a e, decode a = .error e → e.isWire = false) (h : Puts P result frames octets) :
    Puts P (result.bind decode) frames octets := by
  cases h with
  | nothing he => exact .nothing he
  | whole hf hlength hresult =>
    refine .whole hf hlength fun e he => ?_
    cases result with
    | error e' =>
      cases he
      exact hresult e rfl
    | ok a => exact hdecode a e he
  | cut hf hlength he hpart hcut => exact .cut hf hlength he hpart hcut

theorem map (f : α → β) (h : Puts P result frames octets) :
    Puts P (result.map f) frames octets := by
  have hbind : result.map f = result.bind fun a => .ok (f a) := by cases result <;> rfl
  rw [hbind]
  exact h.bind nofun

/-- Where the connection has not failed, nothing is cut short. -/
theorem complete (h : Puts P result frames octets)
    (hresult : ∀ e, result = .error e → e.isConnection = false) :
    octets = frames.flatMap Frame.encode := by
  cases h with
  | nothing he => rfl
  | whole hf hlength _ => exact (List.flatMap_singleton ..).symm
  | cut hf hlength he =>
    rw [hresult _ rfl] at he
    cases he

end Puts

/-- Whether a call was made on a connection, as its result shows. -/
def StoreCall.reached : StoreCall → Except StoreError StoreAnswer → Bool
  | .close, _ => false
  | .connect, .error (.connect ..) => false
  | .connect, .error (.timeout operation _) => operation != "connect"
  | .connect, _ => true
  | _, .error .notConnected => false
  | _, _ => true

theorem StoreCall.reached_of_ne {call : StoreCall} {result : Except StoreError StoreAnswer}
    (hcall : call.isRequest = true) (h : result ≠ .error .notConnected) :
    call.reached result = true := by
  cases call with
  | connect | close => cases hcall
  | create | fork | head | append =>
    cases result with
    | ok answer => rfl
    | error e => cases e <;> first | rfl | exact absurd rfl h

namespace Client

variable {ν : Type} [Network ν] {s t : Client (Traced ν)}

/-! ## Exchanges -/

theorem outcome_not_wire {type : MessageType} {limit : Duration} {ended : Io (UInt16 × Bytes)}
    {e : StoreError} (h : outcome type limit ended = .error e) : e.isWire = false := by
  unfold outcome at h
  split at h
  · split at h <;> cases h
    rfl
  · cases h
    rfl
  · cases h
    rfl

/-- A request that cannot be written is lost with its connection. -/
theorem outcome_of_unwritten {c : Network.Connection ν} {frame : Bytes} {net : ν}
    (h : ∀ done, (Network.write c frame net).1 ≠ .done done) (type : MessageType)
    (limit : Duration) :
    ∃ e, outcome type limit (converse c frame net).1 = .error e ∧ e.isConnection = true := by
  unfold converse
  rcases hwrite : Network.write c frame net with ⟨done | cause | _, after⟩
  · exact absurd (congrArg Prod.fst hwrite) (h done)
  · exact ⟨_, rfl, rfl⟩
  · exact ⟨_, rfl, rfl⟩

/-- An exchange puts its request on its connection. -/
theorem exchange_puts (c : Network.Connection (Traced ν)) (type : MessageType) (id : UInt64)
    (body : Bytes) (limit : Duration) (t : Traced ν) :
    let r := exchange c type id body limit t
    ∃ frames octets, Puts (· = ⟨type.code, 0, id, body⟩) r.1 frames octets ∧
      r.2.lines = t.lines.modify c.1 (· ++ octets) := by
  unfold exchange Frame.encode?
  by_cases hlength : body.length < 2 ^ 32
  · let f : Frame := ⟨type.code, 0, id, body⟩
    let ended := (Network.write c.2 f.encode t.net).1
    have hlines : (converse c f.encode t).2.lines =
        t.lines.modify c.1 (· ++ t.sent f.encode ended) :=
      converse_keeps (P := fun t' => t'.lines = t.lines.modify c.1 (· ++ t.sent f.encode ended))
        (fun _ _ _ h => h) c f.encode rfl
    simp only [hlength, ↓reduceIte]
    refine ⟨[f], t.sent f.encode ended, ?_, hlines⟩
    by_cases hwhole : t.sent f.encode ended = f.encode
    · rw [hwhole]
      exact .whole rfl hlength fun e => outcome_not_wire
    · have hunwritten : ∀ done, (Network.write c f.encode t).1 ≠ .done done := by
        intro done hdone
        refine hwhole ?_
        rw [show ended = .done done from hdone]
        rfl
      obtain ⟨e, he, hlost⟩ := outcome_of_unwritten hunwritten type limit
      rw [show outcome type limit (converse c f.encode t).1 = _ from he]
      exact .cut rfl hlength hlost (t.sent_part f.encode ended) hwhole
  · simp only [hlength, ↓reduceIte]
    exact ⟨[], [], .nothing rfl, (modify_nothing _ _).symm⟩

/-! ## Calls -/

/-- What a call does that was made on the connection `i`, whose octets were in `lines` before it:
how it ends, and what it leaves. -/
structure Speaks (call : StoreCall) (s : Client (Traced ν)) (lines : List Bytes) (i : Nat)
    {α : Type} (result : Except StoreError α) (t : Client (Traced ν)) : Prop where
  config : t.config = s.config
  speaks : ∃ frames octets,
    Puts (fun f => f.Asks s.config call ∧ f.requestId = s.lastRequest + 1) result frames octets ∧
      t.net.lines = lines.modify i (· ++ octets) ∧
      (t.lastRequest = s.lastRequest + 1 ∨ t.lastRequest = s.lastRequest ∧ frames = []) ∧
      (t.connection = none ∨
        octets = frames.flatMap Frame.encode ∧ ∃ c, t.connection = some c ∧ c.1 = i)

theorem Speaks.bind {call : StoreCall} {lines : List Bytes} {i : Nat} {α β : Type}
    {result : Except StoreError α} {decode : α → Except StoreError β}
    (hdecode : ∀ a e, decode a = .error e → e.isWire = false)
    (h : Speaks call s lines i result t) : Speaks call s lines i (result.bind decode) t := by
  obtain ⟨hconfig, frames, octets, hputs, hrest⟩ := h
  exact ⟨hconfig, frames, octets, hputs.bind hdecode, hrest⟩

theorem Speaks.map {call : StoreCall} {lines : List Bytes} {i : Nat} {α β : Type}
    {result : Except StoreError α} (f : α → β)
    (h : Speaks call s lines i result t) : Speaks call s lines i (result.map f) t := by
  obtain ⟨hconfig, frames, octets, hputs, hrest⟩ := h
  exact ⟨hconfig, frames, octets, hputs.map f, hrest⟩

/-- A call whose request cannot be written leaves the connection as it is. -/
theorem speaks_nothing {call : StoreCall} {c : Network.Connection (Traced ν)}
    (hc : s.connection = some c) {α : Type} {e : StoreError} (he : e.isWire = true) :
    Speaks call s s.net.lines c.1 (.error e : Except StoreError α) s :=
  ⟨rfl, [], [], .nothing he, (modify_nothing _ _).symm, .inr ⟨rfl, rfl⟩, .inr ⟨rfl, c, hc, rfl⟩⟩

theorem request_speaks {call : StoreCall} {type : MessageType} {body : Bytes}
    (htype : call.type? = some type) (hbody : call.body s.config = .ok body)
    {c : Network.Connection (Traced ν)} (hc : s.connection = some c) :
    Speaks call s s.net.lines c.1 (s.request type body).1 (s.request type body).2 := by
  obtain ⟨frames, octets, hputs, hlines⟩ :=
    exchange_puts c type (s.lastRequest + 1) body s.config.requestTimeout s.net
  have hasks : ∀ f, f = ⟨type.code, 0, s.lastRequest + 1, body⟩ →
      Frame.Asks s.config call f ∧ f.requestId = s.lastRequest + 1 := by
    rintro f rfl
    exact ⟨Frame.asks_of_body htype hbody _, rfl⟩
  have hputs := hputs.imp hasks
  unfold request
  simp only [hc]
  rcases hexchange : exchange c type (s.lastRequest + 1) body s.config.requestTimeout s.net with
    ⟨e | answer, net⟩ <;> rw [hexchange] at hputs hlines <;> simp only
  · split
    · exact ⟨rfl, frames, octets, hputs, hlines, .inl rfl, .inl rfl⟩
    · rename_i hkept
      have hcomplete := hputs.complete (by rintro _ ⟨⟩; simpa using hkept)
      exact ⟨rfl, frames, octets, hputs, hlines, .inl rfl, .inr ⟨hcomplete, c, rfl, rfl⟩⟩
  · exact ⟨rfl, frames, octets, hputs, hlines, .inl rfl, .inr ⟨hputs.complete nofun, c, rfl, rfl⟩⟩

theorem greet_speaks (c : Network.Connection (Traced ν)) (hnone : s.connection = none) :
    Speaks .connect s s.net.lines c.1 (greet c s).1 (greet c s).2 := by
  unfold greet
  cases hbody : handshake s.config.tag with
  | error e =>
    exact ⟨rfl, [], [], .nothing rfl, (modify_nothing _ _).symm, .inr ⟨rfl, rfl⟩, .inl hnone⟩
  | ok body =>
    obtain ⟨frames, octets, hputs, hlines⟩ :=
      exchange_puts c .hello (s.lastRequest + 1) body s.config.requestTimeout s.net
    have hbody : StoreCall.connect.body s.config = .ok body := hbody
    have hasks : ∀ f, f = ⟨MessageType.hello.code, 0, s.lastRequest + 1, body⟩ →
        Frame.Asks s.config .connect f ∧ f.requestId = s.lastRequest + 1 := by
      rintro f rfl
      exact ⟨Frame.asks_of_body rfl hbody _, rfl⟩
    have hputs := hputs.imp hasks
    simp only
    rcases hexchange : exchange c .hello (s.lastRequest + 1) body s.config.requestTimeout s.net with
      ⟨e | answer, net⟩ <;> rw [hexchange] at hputs hlines <;> simp only
    · refine ⟨rfl, frames, octets, ?_, hlines, .inl rfl, .inl hnone⟩
      exact hputs.map fun _ => ()
    · refine ⟨rfl, frames, octets, ?_, hlines, .inl rfl, .inr ⟨hputs.complete nofun, c, rfl, rfl⟩⟩
      exact hputs.map fun _ => ()

/-- The result of a handshake shows that the store was reached. -/
theorem reached_greet (c : Network.Connection (Traced ν)) (s : Client (Traced ν)) :
    StoreCall.connect.reached ((greet c s).1.map fun _ => .nothing) = true := by
  have houtcome {limit : Duration} {ended : Io (UInt16 × Bytes)} {e : StoreError}
      (h : outcome .hello limit ended = .error e) :
      StoreCall.connect.reached (.error e) = true := by
    unfold outcome at h
    split at h
    · split at h <;> cases h
      rfl
    · cases h
      rfl
    · cases h
      change (MessageType.hello.name != "connect") = true
      decide
  have hexchange {id : UInt64} {body : Bytes} {limit : Duration} {net : Traced ν} {e : StoreError}
      (h : (exchange c .hello id body limit net).1 = .error e) :
      StoreCall.connect.reached (.error e) = true := by
    unfold exchange at h
    split at h
    · cases h
      rfl
    · exact houtcome h
  unfold greet
  cases handshake s.config.tag with
  | error e => rfl
  | ok body =>
    simp only
    split
    · rename_i e he
      exact hexchange he
    · rfl

theorem require_map_not_wire {α : Type} {type : MessageType} {need : Nat} {answer : Bytes}
    {fields : Bytes → α} {e : StoreError} (h : (require type need answer).map fields = .error e) :
    e.isWire = false := by
  unfold require at h
  split at h <;> cases h
  rfl

/-- What a call does to the connections. -/
inductive Effect (call : StoreCall) (s : Client (Traced ν)) :
    Except StoreError StoreAnswer → Client (Traced ν) → Prop where
  /-- It was made on none. -/
  | silent {result : Except StoreError StoreAnswer} {t : Client (Traced ν)}
    (hreached : call.reached result = false) (hconfig : t.config = s.config)
    (hlines : t.net.lines = s.net.lines) (hlast : t.lastRequest = s.lastRequest)
    (hconnection : t.connection = none ∨ t.connection = s.connection) : Effect call s result t
  /-- It was made on a new one. -/
  | opened {result : Except StoreError StoreAnswer} {t : Client (Traced ν)}
    (hcall : call = .connect) (hreached : call.reached result = true)
    (h : Speaks call s (s.net.lines ++ [[]]) s.net.lines.length result t) : Effect call s result t
  /-- It was made on the one that there is. -/
  | sent {result : Except StoreError StoreAnswer} {t : Client (Traced ν)}
    {c : Network.Connection (Traced ν)} (hcall : call.isRequest = true)
    (hreached : call.reached result = true) (hc : s.connection = some c)
    (h : Speaks call s s.net.lines c.1 result t) : Effect call s result t

@[simp] theorem lines_close (s : Client (Traced ν)) : s.close.net.lines = s.net.lines := by
  unfold close
  split <;> rfl

theorem connect_effect (s : Client (Traced ν)) :
    Effect .connect s (s.connect.1.map fun _ => .nothing) s.connect.2 := by
  unfold connect
  rcases s.close.net.dial_cases s.close.config.address with
    ⟨c, net, hdial⟩ | ⟨cause, net, hdial⟩ | ⟨net, hdial⟩ <;>
    simp only [show Network.dial s.close.config.address s.close.net = _ from hdial]
  · let opened : Client (Traced ν) := { s.close with
      net := { s.close.net with net, lines := s.close.net.lines ++ [[]] } }
    let line : Network.Connection (Traced ν) := (s.close.net.lines.length, c)
    refine .opened rfl (reached_greet line opened) ?_
    obtain ⟨hconfig, frames, octets, hputs, hlines, hrest⟩ :=
      (greet_speaks (s := opened) line (connection_close s)).map fun _ => StoreAnswer.nothing
    simp only [opened, line, config_close, lastRequest_close, lines_close] at *
    exact ⟨hconfig, frames, octets, hputs, hlines, hrest⟩
  · exact .silent rfl (config_close s) (lines_close s) (lastRequest_close s)
      (.inl (connection_close s))
  · exact .silent rfl (config_close s) (lines_close s) (lastRequest_close s)
      (.inl (connection_close s))

/-- A request of a client with a connection says its call on it. -/
theorem perform_speaks {call : StoreCall} (hcall : call.isRequest = true)
    {c : Network.Connection (Traced ν)} (hc : s.connection = some c) :
    Speaks call s s.net.lines c.1 (call.perform s).1 (call.perform s).2 := by
  have hask {α : Type} (call : StoreCall) {type : MessageType} {id : UInt64} {need : Nat}
      {fields : Bytes → α} (htype : call.type? = some type)
      (hbody : call.body s.config = .ok (ofNatLE 8 id.toNat)) (wrap : α → StoreAnswer) :
      let r := ask type id (fun answer => (require type need answer).map fields) s
      Speaks call s s.net.lines c.1 (r.1.map wrap) r.2 :=
    ((request_speaks htype hbody hc).bind fun _ _ => require_map_not_wire).map wrap
  cases call with
  | connect | close => cases hcall
  | create base => exact hask (.create base) rfl rfl .context
  | fork base => exact hask (.fork base) rfl rfl .context
  | head context => exact hask (.head context) rfl rfl .turn
  | append parent d =>
    change Speaks (.append parent d) s s.net.lines c.1
      ((s.append parent d).1.map StoreAnswer.context) (s.append parent d).2
    unfold append
    simp only [hc, Option.isNone_some, Bool.false_eq_true, ↓reduceIte]
    split
    · exact (speaks_nothing hc rfl).map _
    · rename_i body hbody
      have hbody : (StoreCall.append parent d).body s.config = .ok body := hbody
      have hspeaks : Speaks (.append parent d) s s.net.lines c.1 (s.request .appendTurn body).1
        (s.request .appendTurn body).2 := request_speaks rfl hbody hc
      exact (hspeaks.bind fun _ _ => require_map_not_wire).map _

/-- A call is made on no connection, on a new one or on the one that there is. -/
theorem perform_effect (call : StoreCall) (s : Client (Traced ν)) :
    Effect call s (call.perform s).1 (call.perform s).2 := by
  cases hcall : call.isRequest with
  | false =>
    cases call with
    | connect => exact connect_effect s
    | close =>
      exact .silent rfl (config_close s) (lines_close s) (lastRequest_close s)
        (.inl (connection_close s))
    | create | fork | head | append => cases hcall
  | true =>
    have hanswered := perform_answered hcall s
    cases hc : s.connection with
    | none =>
      generalize (call.perform s).1 = result, (call.perform s).2 = t at hanswered
      cases hanswered with
      | refused h =>
        exact .silent (by cases call <;> first | rfl | cases hcall) rfl rfl rfl (.inr rfl)
      | lost hs he ht | kept hs hresult ht =>
        rw [hc] at hs
        cases hs
    | some c =>
      refine .sent hcall (StoreCall.reached_of_ne hcall fun hresult => ?_) hc
        (perform_speaks hcall hc)
      generalize (call.perform s).1 = result, (call.perform s).2 = t at hanswered hresult
      cases hanswered with
      | refused h =>
        rw [hc] at h
        cases h
      | lost hs he ht =>
        cases hresult
        cases he
      | kept hs hkept ht => exact (hkept _ hresult).2 rfl

end Client

end SessionRecorder

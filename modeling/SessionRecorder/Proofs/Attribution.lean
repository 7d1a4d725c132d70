import SessionRecorder.Proofs.AnsweringPeer
import SessionRecorder.Proofs.ConnectionState

/-!
Answers are taken for nothing but their own requests. Between its calls a client holds no
connection on which anything is left to read, so a call that sends a request reads only what
answers that request. Main statement: `answers_attributed`.
-/

namespace SessionRecorder

open Bytes Wire AnsweringPeer

namespace StoreCall

/-- The type of the request that a call sends. -/
def type? : StoreCall → Option MessageType
  | connect => some .hello
  | close => none
  | create _ => some .createContext
  | fork _ => some .forkContext
  | head _ => some .getHead
  | append .. => some .appendTurn

/-- The body of that request. -/
def body (config : ClientConfig) : StoreCall → Except WireError Bytes
  | connect => handshake config.tag
  | close => .ok []
  | create id | fork id | head id => .ok (ofNatLE 8 id.toNat)
  | append parent d =>
    (AppendRequest.ofPayload d.context parent d.type.id d.type.version d.payload).encode

/-- How many octets its answer has at least. -/
def need : StoreCall → Nat
  | connect | close => 0
  | create _ | fork _ | append .. => 20
  | head _ => 12

/-- What an answer with that many octets says. -/
def reading : StoreCall → Bytes → StoreAnswer
  | connect, _ | close, _ => .nothing
  | create _, body | fork _, body | append .., body =>
    .context ⟨.ofNat (fieldLE 0 8 body), .ofNat (fieldLE 8 8 body), .ofNat (fieldLE 16 4 body)⟩
  | head _, body => .turn ⟨.ofNat (fieldLE 0 8 body), .ofNat (fieldLE 8 4 body)⟩

/-- The result of a call whose exchange ends so. -/
def judge (call : StoreCall) (type : MessageType) (limit : Duration) :
    Io (UInt16 × Bytes) → Except StoreError StoreAnswer
  | .fault cause => .error (.connectionLost cause)
  | .timedOut => .error (.timeout type.name limit)
  | .done (code, body) =>
    if code = MessageType.error.code then
      .error (.protocol (decodeError body).1 (decodeError body).2)
    else if body.length < call.need then .error (.malformed type.name body.length call.need)
    else .ok (call.reading body)

/-- The client cannot write the request of the call. -/
def Unwritable {plan : Plan} (s : Client (AnsweringPeer plan)) (call : StoreCall)
    (e : WireError) : Prop :=
  ∃ type, call.type? = some type ∧ ((call.body s.config).bind fun body =>
    Frame.encode? ⟨type.code, 0, s.lastRequest + 1, body⟩) = .error e

/-- The result of a call that sends no request. -/
inductive Unsent {plan : Plan} (s : Client (AnsweringPeer plan)) :
    StoreCall → Except StoreError StoreAnswer → Prop where
  | closed : Unsent s close (.ok .nothing)
  | disconnected {call : StoreCall} (hcall : call.isRequest) (h : s.connection = none) :
    Unsent s call (.error .notConnected)
  | refused {cause : IoFault} (h : plan.dials s.net.dialed = some (.fault cause)) :
    Unsent s connect (.error (.connect s.config.address cause))
  | unreached (h : plan.dials s.net.dialed = some .silence) :
    Unsent s connect (.error (.timeout "connect" s.config.connectTimeout))
  | unwritten {call : StoreCall} {e : WireError} (h : Unwritable s call e) :
    Unsent s call (.error (.wire e))

end StoreCall

namespace Client

variable {plan : Plan} {s t : Client (AnsweringPeer plan)}

/-- A connection that the client holds has nothing left to read. -/
def Settled (s : Client (AnsweringPeer plan)) : Prop :=
  ∀ c, s.connection = some c → s.net.unread c = []

theorem settled_of_none (h : s.connection = none) : s.Settled := by
  intro c hc
  rw [h] at hc
  cases hc

/-- A call that sends no request, and reads nothing. -/
structure Silent (call : StoreCall) (s : Client (AnsweringPeer plan))
    (result : Except StoreError StoreAnswer) (t : Client (AnsweringPeer plan)) : Prop where
  requests : t.net.requests = s.net.requests
  taken : t.net.taken = s.net.taken
  unsent : call.Unsent s result

/-- A call that sends a request: it reads only what answers that request, and its result is
the judgement on the fate of that request. -/
structure Attributed (call : StoreCall) (s : Client (AnsweringPeer plan))
    (result : Except StoreError StoreAnswer) (t : Client (AnsweringPeer plan)) : Prop where
  requests : t.net.requests = s.net.requests + 1
  taken : ∃ octets, t.net.taken = s.net.taken ++ octets ∧ ∀ o ∈ octets, o.1 = s.net.requests + 1
  result : ∃ type, call.type? = some type ∧ result =
    call.judge type s.config.requestTimeout (plan.conduct (s.net.requests + 1)).fate
  session : call = .connect → ∀ code answer, code ≠ MessageType.error.code →
    (plan.conduct (s.net.requests + 1)).fate = .done (code, answer) →
    t.session = if 8 ≤ answer.length then some (.ofNat (fieldLE 0 8 answer)) else none

/-- How a call ends. The client is settled again behind it. -/
structure Ended (call : StoreCall) (s : Client (AnsweringPeer plan))
    (result : Except StoreError StoreAnswer) (t : Client (AnsweringPeer plan)) : Prop where
  settled : t.Settled
  config : t.config = s.config
  accounted : Silent call s result t ∨ Attributed call s result t

theorem judge_outcome {α : Type} (call : StoreCall) (type : MessageType) (limit : Duration)
    (ended : Io (UInt16 × Bytes)) {fields : Bytes → α} {wrap : α → StoreAnswer}
    (hwrap : ∀ body, wrap (fields body) = call.reading body) :
    ((outcome type limit ended).bind fun body =>
      (require type call.need body).map fields).map wrap = call.judge type limit ended := by
  cases ended with
  | fault cause => rfl
  | timedOut => rfl
  | done answer =>
    obtain ⟨code, body⟩ := answer
    unfold outcome StoreCall.judge
    simp only
    split
    · rfl
    · change ((require type call.need body).map fields).map wrap = _
      unfold require
      split
      · rfl
      · exact congrArg Except.ok (hwrap body)

/-- What an exchange does that writes its request. -/
structure Conversed (c : Nat) (type : MessageType) (limit : Duration) (p : AnsweringPeer plan)
    (r : Except StoreError Bytes) (q : AnsweringPeer plan) : Prop where
  requests : q.requests = p.requests + 1
  taken : ∃ octets, q.taken = p.taken ++ octets ∧ ∀ o ∈ octets, o.1 = p.requests + 1
  result : r = outcome type limit (plan.conduct (p.requests + 1)).fate
  /-- Where the connection is not to blame, it holds nothing. -/
  quiet : (∀ e, r = .error e → e.isConnection = false) → q.unread c = []

theorem exchange_cases (hplan : plan.Framed) (c : Nat) (type : MessageType) (id : UInt64)
    (body : Bytes) (limit : Duration) (p : AnsweringPeer plan) (hquiet : p.unread c = []) :
    let r := exchange (ν := AnsweringPeer plan) c type id body limit p
    (∃ e, Frame.encode? ⟨type.code, 0, id, body⟩ = .error e ∧ r = (.error (.wire e), p)) ∨
      Conversed c type limit p r.1 r.2 := by
  unfold exchange
  split
  · rename_i e he
    exact .inl ⟨e, he, rfl⟩
  · rename_i frame _
    obtain ⟨hrequests, hfate, htaken, hquiet⟩ := converse_spec hplan frame hquiet
    rcases hconverse : converse (ν := AnsweringPeer plan) c frame p with ⟨ended, net⟩
    rw [hconverse] at hrequests hfate htaken hquiet
    refine .inr ⟨hrequests, htaken, congrArg (outcome type limit) hfate, fun h => ?_⟩
    cases ended with
    | done answer => exact hquiet answer rfl
    | fault cause => cases h _ rfl
    | timedOut => cases h _ rfl

/-- A request is attributed however its answer is read. -/
theorem Conversed.attributed {α : Type} {c : Nat} {call : StoreCall} {type : MessageType}
    {r : Except StoreError Bytes} {net : AnsweringPeer plan}
    (h : Conversed c type s.config.requestTimeout s.net r net)
    (htype : call.type? = some type) {fields : Bytes → α} {wrap : α → StoreAnswer}
    (hwrap : ∀ answer, wrap (fields answer) = call.reading answer) (hnet : t.net = net)
    (hsession : call = .connect → ∀ answer, r = .ok answer →
      t.session = if 8 ≤ answer.length then some (.ofNat (fieldLE 0 8 answer)) else none) :
    Attributed call s ((r.bind fun answer =>
      (require type call.need answer).map fields).map wrap) t := by
  rw [← hnet] at h
  refine ⟨h.requests, h.taken, ⟨type, htype, ?_⟩, fun hcall code answer hcode hfate => ?_⟩
  · rw [h.result, judge_outcome call type _ _ hwrap]
  · refine hsession hcall answer ?_
    rw [h.result, hfate]
    exact if_neg hcode

theorem Conversed.greeted {c : Nat} {r : Except StoreError Bytes} {net : AnsweringPeer plan}
    (h : Conversed c .hello s.config.requestTimeout s.net r net) (hnet : t.net = net)
    (hsession : ∀ answer, r = .ok answer →
      t.session = if 8 ≤ answer.length then some (.ofNat (fieldLE 0 8 answer)) else none) :
    Attributed .connect s (r.map fun _ => .nothing) t := by
  have hread : (r.map fun _ => StoreAnswer.nothing) = (r.bind fun answer =>
      (require .hello StoreCall.connect.need answer).map fun _ => ()).map fun _ => .nothing := by
    cases r <;> rfl
  rw [hread]
  exact h.attributed rfl (fun _ => rfl) hnet fun _ => hsession

theorem request_attributed {α : Type} (hplan : plan.Framed) (call : StoreCall)
    {type : MessageType} (hcall : call.isRequest) (htype : call.type? = some type) {body : Bytes}
    (hbody : call.body s.config = .ok body) {fields : Bytes → α} {wrap : α → StoreAnswer}
    (hwrap : ∀ answer, wrap (fields answer) = call.reading answer) (hs : s.Settled) :
    let r := s.request type body
    let result := (r.1.bind fun answer => (require type call.need answer).map fields).map wrap
    Ended call s result r.2 := by
  have hsession {P : Prop} (h : call = .connect) : P := by
    rw [h] at hcall
    cases hcall
  unfold request
  cases hconnection : s.connection with
  | none => exact ⟨hs, rfl, .inl ⟨rfl, rfl, .disconnected hcall hconnection⟩⟩
  | some c =>
    simp only
    rcases exchange_cases hplan c type (s.lastRequest + 1) body s.config.requestTimeout s.net
      (hs c hconnection) with ⟨e, he, hunsent⟩ | hconversed
    · rw [hunsent]
      refine ⟨fun d hd => hs d (hconnection.trans hd), rfl, .inl ⟨rfl, rfl, .unwritten ?_⟩⟩
      exact ⟨type, htype, by rw [hbody]; exact he⟩
    · rcases hexchange : exchange c type (s.lastRequest + 1) body s.config.requestTimeout s.net with
        ⟨e | answer, net⟩ <;> rw [hexchange] at hconversed <;> simp only
      · split
        · exact ⟨settled_of_none rfl, rfl, .inr (hconversed.attributed htype hwrap rfl hsession)⟩
        · rename_i hkept
          refine ⟨?_, rfl, .inr (hconversed.attributed htype hwrap rfl hsession)⟩
          rintro _ ⟨⟩
          refine hconversed.quiet ?_
          rintro _ ⟨⟩
          simpa using hkept
      · refine ⟨?_, rfl, .inr (hconversed.attributed htype hwrap rfl hsession)⟩
        rintro _ ⟨⟩
        exact hconversed.quiet fun e he => by cases he

@[simp] theorem net_close (s : Client (AnsweringPeer plan)) : s.close.net = s.net := by
  unfold close
  split <;> rfl

theorem greet_attributed (hplan : plan.Framed) {c : Nat} (hnone : s.connection = none)
    (hquiet : s.net.unread c = []) :
    let r := greet (ν := AnsweringPeer plan) c s
    let result := r.1.map fun _ => StoreAnswer.nothing
    r.2.Settled ∧ r.2.config = s.config ∧
      ((∃ e, StoreCall.Unwritable s .connect e ∧ result = .error (.wire e) ∧ r.2.net = s.net) ∨
        Attributed .connect s result r.2) := by
  unfold greet
  cases hbody : handshake s.config.tag with
  | error e =>
    have hunwritable : StoreCall.Unwritable s .connect e := by
      refine ⟨_, rfl, ?_⟩
      rw [StoreCall.body, hbody]
      rfl
    exact ⟨settled_of_none hnone, rfl, .inl ⟨e, hunwritable, rfl, rfl⟩⟩
  | ok body =>
    simp only
    rcases exchange_cases hplan c .hello (s.lastRequest + 1) body s.config.requestTimeout s.net
      hquiet with ⟨e, he, hunsent⟩ | hconversed
    · have hunwritable : StoreCall.Unwritable s .connect e := by
        refine ⟨_, rfl, ?_⟩
        rw [StoreCall.body, hbody]
        exact he
      rw [hunsent]
      exact ⟨settled_of_none hnone, rfl, .inl ⟨e, hunwritable, rfl, rfl⟩⟩
    · rcases hexchange : exchange c .hello (s.lastRequest + 1) body s.config.requestTimeout s.net
        with ⟨e | answer, net⟩ <;> rw [hexchange] at hconversed ⊢ <;> dsimp only
      · refine ⟨settled_of_none hnone, rfl, .inr ?_⟩
        exact hconversed.greeted rfl fun answer h => by cases h
      · refine ⟨?_, rfl, .inr (hconversed.greeted rfl ?_)⟩
        · rintro _ ⟨⟩
          exact hconversed.quiet fun e he => by cases he
        · rintro _ ⟨⟩
          rfl

theorem connect_attributed (hplan : plan.Framed) (s : Client (AnsweringPeer plan)) :
    Ended .connect s (s.connect.1.map fun _ => .nothing) s.connect.2 := by
  let called : AnsweringPeer plan := { s.net with dialed := s.net.dialed + 1 }
  let dialled := called.hold s.net.dialed []
  unfold connect
  simp only [net_close]
  cases hdial : plan.dials s.net.dialed with
  | some loss =>
    have hnetwork : s.net.dial = (loss.ended, dialled) := by
      simp only [dial, hdial]
      rfl
    rw [show Network.dial s.close.config.address s.net = _ from hnetwork]
    cases loss with
    | fault cause =>
      refine ⟨settled_of_none (connection_close s), config_close s, .inl ⟨rfl, rfl, ?_⟩⟩
      rw [config_close]
      exact .refused hdial
    | silence =>
      refine ⟨settled_of_none (connection_close s), config_close s, .inl ⟨rfl, rfl, ?_⟩⟩
      rw [config_close]
      exact .unreached hdial
  | none =>
    have hnetwork : s.net.dial = (.done s.net.dialed, dialled) := by
      simp only [dial, hdial]
      rfl
    rw [show Network.dial s.close.config.address s.net = _ from hnetwork]
    let opened : Client (AnsweringPeer plan) := { s.close with net := dialled }
    have hquiet : opened.net.unread s.net.dialed = [] := by simp [opened, dialled, hold]
    obtain ⟨hsettled, hconfig, hended⟩ :=
      greet_attributed (s := opened) hplan (connection_close s) hquiet
    refine ⟨hsettled, hconfig.trans (config_close s), ?_⟩
    rcases hended with
      ⟨e, ⟨type, htype, he⟩, hresult, hnet⟩ | ⟨hrequests, htaken, hresult, hsession⟩
    · have hunsent : StoreCall.connect.Unsent s (.error (.wire e)) := by
        refine .unwritten ⟨type, htype, ?_⟩
        rw [← config_close s, ← lastRequest_close s]
        exact he
      rw [← hresult] at hunsent
      exact .inl ⟨(congrArg requests hnet).trans rfl, (congrArg taken hnet).trans rfl, hunsent⟩
    · rw [show opened.config = s.config from config_close s] at hresult
      exact .inr ⟨hrequests, htaken, hresult, hsession⟩

theorem perform_attributed (hplan : plan.Framed) (call : StoreCall) (hs : s.Settled) :
    Ended call s (call.perform s).1 (call.perform s).2 := by
  cases call with
  | connect => exact connect_attributed hplan s
  | close =>
    exact ⟨settled_of_none (connection_close s), config_close s,
      .inl ⟨congrArg requests (net_close s), congrArg taken (net_close s), .closed⟩⟩
  | create base =>
    exact request_attributed hplan (.create base) rfl rfl rfl (fun _ => rfl) hs
  | fork base => exact request_attributed hplan (.fork base) rfl rfl rfl (fun _ => rfl) hs
  | head context =>
    exact request_attributed hplan (.head context) rfl rfl rfl (fun _ => rfl) hs
  | append parent d =>
    change Ended (.append parent d) s ((s.append parent d).1.map .context) (s.append parent d).2
    unfold append
    split
    · rename_i hnone
      exact ⟨hs, rfl, .inl ⟨rfl, rfl, .disconnected rfl (Option.isNone_iff_eq_none.1 hnone)⟩⟩
    · split
      · rename_i e he
        refine ⟨hs, rfl, .inl ⟨rfl, rfl, .unwritten ⟨_, rfl, ?_⟩⟩⟩
        rw [StoreCall.body, he]
        rfl
      · rename_i body hbody
        exact request_attributed hplan (.append parent d) rfl rfl hbody (fun _ => rfl) hs

theorem settled_run (hplan : plan.Framed) (calls : List StoreCall) {s : Client (AnsweringPeer plan)}
    (hs : s.Settled) :
    (StoreCall.run calls s).Settled ∧ (StoreCall.run calls s).config = s.config := by
  refine StoreCall.run_keeps (P := fun t : Client (AnsweringPeer plan) =>
    t.Settled ∧ t.config = s.config) ?_ calls ⟨hs, rfl⟩
  intro call t ht
  have hended := perform_attributed hplan call ht.1
  exact ⟨hended.settled, hended.config.trans ht.2⟩

end Client

/-- Whatever calls a client has made, a call that sends no request reads nothing, and one that
sends a request reads only what answers that request. How it ends then depends on what the peer
sent for that request, and on whether it came in time, and on nothing else; a frame that came
whole and in time is judged as it is. -/
theorem answers_attributed (plan : Plan) (hplan : plan.Framed) (config : ClientConfig)
    (peer : AnsweringPeer plan) (calls : List StoreCall) (call : StoreCall) :
    let s := StoreCall.run calls ({ config, net := peer } : Client (AnsweringPeer plan))
    let r := call.perform s
    s.config = config ∧ (Client.Silent call s r.1 r.2 ∨ Client.Attributed call s r.1 r.2) ∧
      ∀ f, (plan.conduct (s.net.requests + 1)).Brings f →
        (plan.conduct (s.net.requests + 1)).fate = .done (f.messageType, f.payload) := by
  intro s r
  let fresh : Client (AnsweringPeer plan) := { config, net := peer }
  obtain ⟨hsettled, hconfig⟩ := Client.settled_run hplan calls (s := fresh)
    (Client.settled_of_none rfl)
  exact ⟨hconfig, (Client.perform_attributed hplan call hsettled).accounted,
    fun f => Conduct.fate_of_brings⟩

/-! ## A late answer, and one that is too long for its length field -/

namespace AnsweringPeer

namespace Sample

open MessageType

def client (plan : Plan) : Client (AnsweringPeer plan) where
  config := Client.Sample.config
  net := {}

/-- A context or a turn, as an answer. -/
def reply (type : MessageType) (id : Nat) (body : Bytes) : Frame := ⟨type.code, 0, .ofNat id, body⟩

/-- The answer to every request but the second: session five, or turn five. -/
def inTime (n : Nat) : Conduct where
  sent := (reply getHead n (ofNatLE 8 5 ++ ofNatLE 4 2)).encode
  come _ := 28

/-- The answer to the second request comes too late. -/
def late : Plan where
  conduct n := if n = 2 then { sent := (reply createContext 2 (ofNatLE 20 1)).encode } else inTime n

def padding : Bytes := List.replicate (2 ^ 32 - 28) 0

/-- An answer to the second request whose length field says twenty. The octets behind those
look like a frame. -/
def overlong : Frame := reply createContext 2
  (ofNatLE 20 1 ++ (reply getHead 3 (ofNatLE 12 9)).encode ++ padding)

/-- The peer sends as much of the overlong answer as looks like two frames. -/
def cutOff : Plan where
  conduct n := if n = 2 then {
      sent := Header.encode ⟨20, createContext.code, 0, 2⟩ ++ ofNatLE 20 1 ++
        (reply getHead 3 (ofNatLE 12 9)).encode
      come := fun _ => 64 }
    else inTime n

end Sample

theorem late_framed : Sample.late.Framed := by
  intro n
  unfold Sample.late
  simp only
  split
  · exact ⟨_, by decide, List.prefix_refl _⟩
  · have hlength : (ofNatLE 8 5 ++ ofNatLE 4 2).length < 2 ^ 32 := by decide
    exact ⟨_, hlength, List.prefix_refl _⟩

/-- The answer that came too late is not taken for that to a later request. -/
theorem late_answer_ignored :
    let s := StoreCall.run [.connect, .create 0, .connect] (Sample.client Sample.late)
    let r := (StoreCall.head 1).perform s
    Client.Attributed (.head 1) s r.1 r.2 ∧ r.1 = .ok (.turn ⟨5, 2⟩) := by
  obtain ⟨_, hsilent | hattributed, _⟩ := answers_attributed Sample.late late_framed
    Client.Sample.config {} [.connect, .create 0, .connect] (.head 1)
  · exact absurd hsilent.requests (by decide +kernel)
  · exact ⟨hattributed, rfl⟩

theorem overlong_length : Sample.overlong.payload.length = 2 ^ 32 + 20 := by
  have hpadding : Sample.padding.length = 2 ^ 32 - 28 := List.length_replicate
  simp [Sample.overlong, Sample.reply, headerSize, hpadding]

theorem cutOff_framed (n : Nat) : ∃ f : Frame, (Sample.cutOff.conduct n).sent <+: f.encode := by
  unfold Sample.cutOff
  simp only
  split
  · refine ⟨Sample.overlong, Sample.padding, ?_⟩
    have hheader : Sample.overlong.header = ⟨20, MessageType.createContext.code, 0, 2⟩ := by
      rw [Frame.header, overlong_length]
      rfl
    have hpayload : Sample.overlong.payload = ofNatLE 20 1 ++
        (Sample.reply .getHead 3 (ofNatLE 12 9)).encode ++ Sample.padding := rfl
    rw [Frame.encode_eq Sample.overlong, hheader, hpayload]
    simp only [List.append_assoc]
  · exact ⟨_, List.prefix_refl _⟩

/-- A frame may be too long for its length field. Its first octets are read as a frame of their own,
and what is left of it when the client has read as much as the field says is taken for the answer
to the next request. -/
theorem overlong_answer_outlasts :
    (∀ n, ∃ f : Frame, (Sample.cutOff.conduct n).sent <+: f.encode) ∧
    Frame.decode (Sample.cutOff.conduct 2).sent =
      .ok (Sample.reply .createContext 2 (ofNatLE 20 1)) ∧
    let s := StoreCall.run [.connect, .create 0] (Sample.client Sample.cutOff)
    let r := (StoreCall.head 1).perform s
    r.2.net.requests = s.net.requests + 1 ∧ r.1 = .ok (.turn ⟨9, 0⟩) ∧
      (StoreCall.head 1).judge .getHead s.config.requestTimeout
        (Sample.cutOff.conduct (s.net.requests + 1)).fate = .ok (.turn ⟨5, 2⟩) :=
  ⟨cutOff_framed, rfl, by decide +kernel, rfl, rfl⟩

end AnsweringPeer

end SessionRecorder

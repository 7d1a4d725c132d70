import SessionRecorder.Proofs.Frames
import SessionRecorder.Proofs.StoreCalls
import SessionRecorder.Store.Client
import SessionRecorder.Store.Scripted

/-!
When a client has a connection, over any network: a connection is opened by a `connect`
that succeeds, and ended by a failure of the connection and by nothing else but `close`
and `connect`. Main statement: `connection_follows_results`.
-/

namespace SessionRecorder

open Bytes Wire

/-- An error after which a connection can still be used. -/
def StoreError.Harmless (e : StoreError) : Prop := e.isConnection = false ∧ e ≠ .notConnected

/-- Whether there is a connection after a call, from whether there was one before it and how
the call ended. -/
def StoreCall.connectedAfter (before : Bool) : StoreCall → Except StoreError StoreAnswer → Bool
  | .connect, result => result.isOk
  | .close, _ => false
  | _, .error e => before && !e.isConnection
  | _, .ok _ => before

namespace Client

variable {ν : Type} [Network ν] {s : Client ν}

/-! ## Ending and opening a connection -/

@[simp] theorem connection_close (s : Client ν) : s.close.connection = none := by
  unfold close
  split
  · rfl
  · assumption

@[simp] theorem session_close (s : Client ν) : s.close.session = none := by
  unfold close
  split <;> rfl

@[simp] theorem config_close (s : Client ν) : s.close.config = s.config := by
  unfold close
  split <;> rfl

@[simp] theorem lastRequest_close (s : Client ν) : s.close.lastRequest = s.lastRequest := by
  unfold close
  split <;> rfl

theorem close_of_none (hconnection : s.connection = none) (hsession : s.session = none) :
    s.close = s := by
  unfold close
  simp only [hconnection]
  cases s
  cases hconnection
  cases hsession
  rfl

/-- The handshake of a `connect` that reaches the store: over this connection it ends so,
and leaves the network so. -/
inductive Handshake (s : Client ν) (c : Network.Connection ν) :
    Io (UInt16 × Bytes) × ν → Prop where
  | intro {dialed : ν} {body frame : Bytes}
    (hdial : Network.dial s.config.address s.close.net = (.done c, dialed))
    (hbody : handshake s.config.tag = .ok body)
    (hframe : Frame.encode? ⟨MessageType.hello.code, 0, s.lastRequest + 1, body⟩ = .ok frame) :
    Handshake s c (converse c frame dialed)

/-- A connection that a handshake opened: its session is what the answer begins with. -/
structure Greeted (s : Client ν) (c : Network.Connection ν) (answer : Bytes) (t : Client ν) :
    Prop where
  handshake : ∃ code, code ≠ MessageType.error.code ∧ s.Handshake c (.done (code, answer), t.net)
  connection : t.connection = some c
  session : ∀ id, t.session = some id ↔ ∃ rest, answer = ofNatLE 8 id.toNat ++ rest
  short : t.session = none ↔ answer.length < 8

/-- What a client has after a `connect` that failed. -/
structure Disconnected (t : Client ν) : Prop where
  connection : t.connection = none
  session : t.session = none

theorem session_eq_some_iff (answer : Bytes) (id : UInt64) :
    (if 8 ≤ answer.length then some (.ofNat (fieldLE 0 8 answer)) else none) = some id ↔
      ∃ rest, answer = ofNatLE 8 id.toNat ++ rest := by
  by_cases h : 8 ≤ answer.length
  · rw [if_pos h, Option.some.injEq, ofNat_fieldLE_eq_iff h]
  · rw [if_neg h]
    refine ⟨fun hid => (by cases hid), ?_⟩
    rintro ⟨rest, rfl⟩
    simp at h

theorem greet_error {c : Network.Connection ν} {e : StoreError} {t : Client ν}
    (h : greet c s = (.error e, t)) : t.connection = s.connection ∧ t.session = s.session := by
  unfold greet at h
  split at h
  · cases h
    exact ⟨rfl, rfl⟩
  · simp only at h
    split at h <;> cases h
    exact ⟨rfl, rfl⟩

theorem connect_error {e : StoreError} {t : Client ν} (h : s.connect = (.error e, t)) :
    t.Disconnected := by
  unfold connect at h
  simp only at h
  split at h
  · cases h
    exact ⟨connection_close s, session_close s⟩
  · cases h
    exact ⟨connection_close s, session_close s⟩
  · obtain ⟨hconnection, hsession⟩ := greet_error h
    exact ⟨hconnection.trans (connection_close s), hsession.trans (session_close s)⟩

theorem exchange_ok {c : Network.Connection ν} {type : MessageType} {id : UInt64} {body : Bytes}
    {limit : Duration} {net after : ν} {answer : Bytes}
    (h : exchange c type id body limit net = (.ok answer, after)) :
    ∃ frame code, Frame.encode? ⟨type.code, 0, id, body⟩ = .ok frame ∧
      code ≠ MessageType.error.code ∧ converse c frame net = (.done (code, answer), after) := by
  unfold exchange at h
  split at h
  · cases h
  · rename_i frame hframe
    rcases hconverse : converse c frame net with ⟨ended, last⟩
    simp only [hconverse, Prod.mk.injEq] at h
    obtain ⟨houtcome, rfl⟩ := h
    unfold outcome at houtcome
    split at houtcome
    · split at houtcome <;> cases houtcome
      rename_i hcode
      exact ⟨frame, _, hframe, hcode, hconverse⟩
    · cases houtcome
    · cases houtcome

theorem connect_ok {t : Client ν} (h : s.connect = (.ok (), t)) :
    ∃ c answer, s.Greeted c answer t := by
  unfold connect at h
  simp only at h
  split at h
  · cases h
  · cases h
  · rename_i c dialed hdial
    unfold greet at h
    split at h
    · cases h
    · rename_i body hbody
      simp only at h
      split at h
      · cases h
      · rename_i answer hanswer
        cases h
        obtain ⟨frame, code, hframe, hcode, hconverse⟩ := exchange_ok (Prod.ext hanswer rfl)
        simp only [config_close, lastRequest_close] at hdial hbody hframe
        refine ⟨c, answer, ⟨code, hcode, ?_⟩, rfl, session_eq_some_iff answer, by simp⟩
        rw [← hconverse]
        exact .intro hdial hbody hframe

/-- A store that answers the handshake with an error is not connected to. -/
theorem connect_refused {c : Network.Connection ν} {answer : Bytes} {net : ν}
    (h : s.Handshake c (.done (MessageType.error.code, answer), net)) :
    s.connect.1 = .error (.protocol (decodeError answer).1 (decodeError answer).2) := by
  generalize hended : ((.done (MessageType.error.code, answer), net) : Io (UInt16 × Bytes) × ν) =
    ended at h
  obtain ⟨hdial, hbody, hframe⟩ := h
  unfold connect greet exchange
  simp only [config_close, lastRequest_close, hdial, hbody, hframe, ← hended, outcome, ↓reduceIte]

/-- A name whose length has no field cannot be told to the store. -/
theorem connect_longTag (h : 2 ^ 16 ≤ (Text.utf8 s.config.tag).length) :
    ∃ e, s.connect.1 = .error e := by
  have hbody : ∃ e, handshake s.config.tag = .error e := ⟨_, if_neg (Nat.not_lt.2 h)⟩
  obtain ⟨e, hbody⟩ := hbody
  unfold connect
  simp only
  split
  · exact ⟨_, rfl⟩
  · exact ⟨_, rfl⟩
  · simp only [greet, config_close, hbody]
    exact ⟨_, rfl⟩

/-! ## Requests -/

/-- How a call that needs a connection can end, and what becomes of the connection. -/
inductive Answered {α : Type} (s : Client ν) : Except StoreError α → Client ν → Prop where
  | refused (h : s.connection = none) : Answered s (.error .notConnected) s
  | lost {e : StoreError} {t : Client ν} (hs : s.connection.isSome) (he : e.isConnection = true)
    (ht : t.connection = none) : Answered s (.error e) t
  | kept {result : Except StoreError α} {t : Client ν} (hs : s.connection.isSome)
    (hresult : ∀ e, result = .error e → e.Harmless) (ht : t.connection = s.connection) :
    Answered s result t

/-- What an answer is read as leaves the connection as it is. -/
theorem Answered.bind {α β : Type} {result : Except StoreError α} {t : Client ν}
    {decode : α → Except StoreError β} (h : Answered s result t)
    (hdecode : ∀ a e, decode a = .error e → e.Harmless) : Answered s (result.bind decode) t := by
  cases h with
  | refused h => exact .refused h
  | lost hs he ht => exact .lost hs he ht
  | kept hs hresult ht =>
    refine .kept hs (fun e he => ?_) ht
    cases result with
    | error e' =>
      cases he
      exact hresult e rfl
    | ok a => exact hdecode a e he

theorem Answered.map {α β : Type} {result : Except StoreError α} {t : Client ν} {f : α → β}
    (h : Answered s result t) : Answered s (result.map f) t := by
  have hbind : result.map f = result.bind fun a => .ok (f a) := by cases result <;> rfl
  rw [hbind]
  exact h.bind fun a e he => (by cases he)

theorem outcome_ne_notConnected {type : MessageType} {limit : Duration}
    {ended : Io (UInt16 × Bytes)} {e : StoreError} (h : outcome type limit ended = .error e) :
    e ≠ .notConnected := by
  unfold outcome at h
  split at h
  · split at h <;> cases h
    exact fun h => by cases h
  · cases h
    exact fun h => by cases h
  · cases h
    exact fun h => by cases h

theorem exchange_ne_notConnected {c : Network.Connection ν} {type : MessageType} {id : UInt64}
    {body : Bytes} {limit : Duration} {net : ν} {e : StoreError}
    (h : (exchange c type id body limit net).1 = .error e) : e ≠ .notConnected := by
  unfold exchange at h
  split at h
  · cases h
    exact fun h => by cases h
  · exact outcome_ne_notConnected h

theorem request_answered (type : MessageType) (body : Bytes) (s : Client ν) :
    Answered s (s.request type body).1 (s.request type body).2 := by
  unfold request
  split
  · rename_i hnone
    exact .refused hnone
  · rename_i c hc
    have hsome : s.connection.isSome := by rw [hc]; rfl
    rcases hexchange : exchange c type (s.lastRequest + 1) body s.config.requestTimeout s.net with
      ⟨e | answer, net⟩ <;> simp only [hexchange]
    · have herror : e ≠ .notConnected := exchange_ne_notConnected (congrArg Prod.fst hexchange)
      split
      · rename_i hlost
        exact .lost hsome hlost rfl
      · rename_i hkept
        refine .kept hsome ?_ rfl
        rintro _ ⟨⟩
        exact ⟨by simpa using hkept, herror⟩
    · exact .kept hsome (fun e he => by cases he) rfl

theorem require_map_error {α : Type} {type : MessageType} {need : Nat} {answer : Bytes}
    {fields : Bytes → α} {e : StoreError} (h : (require type need answer).map fields = .error e) :
    e.Harmless := by
  unfold require at h
  split at h <;> cases h
  exact ⟨rfl, fun h => by cases h⟩

theorem contextHead_error {type : MessageType} {answer : Bytes} {e : StoreError}
    (h : contextHead type answer = .error e) : e.Harmless := require_map_error h

theorem turnHead_error {answer : Bytes} {e : StoreError} (h : turnHead answer = .error e) :
    e.Harmless := require_map_error h

theorem append_answered (parent : UInt64) (d : Delivery) (s : Client ν) :
    Answered s (s.append parent d).1 (s.append parent d).2 := by
  unfold append
  split
  · rename_i hnone
    exact .refused (Option.isNone_iff_eq_none.1 hnone)
  · rename_i hsome
    split
    · refine .kept (Option.isSome_iff_ne_none.2 fun h => hsome (by rw [h]; rfl)) ?_ rfl
      rintro _ ⟨⟩
      exact ⟨rfl, fun h => by cases h⟩
    · rename_i body _
      exact (request_answered .appendTurn body s).bind fun _ _ => contextHead_error

theorem ask_answered {α : Type} (type : MessageType) (id : UInt64)
    {decode : Bytes → Except StoreError α}
    (hdecode : ∀ answer e, decode answer = .error e → e.Harmless) (s : Client ν) :
    Answered s (ask type id decode s).1 (ask type id decode s).2 :=
  (request_answered type (ofNatLE 8 id.toNat) s).bind hdecode

theorem perform_answered {call : StoreCall} (h : call.isRequest) (s : Client ν) :
    Answered s (call.perform s).1 (call.perform s).2 := by
  cases call with
  | connect => cases h
  | close => cases h
  | create base => exact (ask_answered .createContext base (fun _ _ => contextHead_error) s).map
  | fork base => exact (ask_answered .forkContext base (fun _ _ => contextHead_error) s).map
  | head context => exact (ask_answered .getHead context (fun _ _ => turnHead_error) s).map
  | append parent d => exact (append_answered parent d s).map

theorem Answered.connectedAfter {call : StoreCall} (hcall : call.isRequest)
    {result : Except StoreError StoreAnswer} {t : Client ν} (h : Answered s result t) :
    t.connection.isSome = call.connectedAfter s.connection.isSome result := by
  have hafter : call.connectedAfter s.connection.isSome result =
      match result with
      | .error e => s.connection.isSome && !e.isConnection
      | .ok _ => s.connection.isSome := by
    cases call <;> cases result <;> first | rfl | cases hcall
  rw [hafter]
  cases h with
  | refused h => simp [h]
  | lost hs he ht => simp [he, ht]
  | kept hs hresult ht =>
    cases result with
    | ok _ => simp [ht]
    | error e => simp [ht, (hresult e rfl).1]

/-- Whether a client is connected follows from how its calls end. -/
theorem connected_perform (call : StoreCall) (s : Client ν) :
    (call.perform s).2.connection.isSome =
      call.connectedAfter s.connection.isSome (call.perform s).1 := by
  by_cases hcall : call.isRequest
  · exact (perform_answered hcall s).connectedAfter hcall
  · cases call with
    | connect =>
      change s.connect.2.connection.isSome = (s.connect.1.map fun _ => StoreAnswer.nothing).isOk
      rcases hconnect : s.connect with ⟨e | _, t⟩
      · simp [(connect_error hconnect).connection, Except.map, Except.isOk, Except.toBool]
      · obtain ⟨c, answer, hgreeted⟩ := connect_ok hconnect
        simp [hgreeted.connection, Except.map, Except.isOk, Except.toBool]
    | close => exact congrArg Option.isSome (connection_close s)
    | create | fork | head | append => exact absurd rfl hcall

theorem connected_run (calls : List StoreCall) (s : Client ν) :
    (StoreCall.run calls s).connection.isSome =
      (StoreCall.results calls s).foldl (fun before (call, result) =>
        call.connectedAfter before result) s.connection.isSome := by
  induction calls generalizing s with
  | nil => rfl
  | cons call rest ih =>
    rw [StoreCall.results, List.foldl_cons]
    simp only [← connected_perform]
    exact ih (call.perform s).2

/-- Whether a client is connected follows from how its calls ended. A handshake that is answered
opens a connection, with the session of that answer; any failure of a `connect`, and any `close`,
leaves neither connection nor session. A request without a connection does nothing, and with
one it ends the connection just when its result is an error of the connection. -/
theorem connection_follows_results (config : ClientConfig) (net : ν) (calls : List StoreCall) :
    let fresh : Client ν := { config, net }
    let s := StoreCall.run calls fresh
    (s.connection.isSome = (StoreCall.results calls fresh).foldl (fun before (call, result) =>
      call.connectedAfter before result) false) ∧
    (∀ t, s.connect = (.ok (), t) → ∃ c answer, s.Greeted c answer t) ∧
    (∀ e t, s.connect = (.error e, t) → t.Disconnected) ∧
    (∀ c answer net, s.Handshake c (.done (MessageType.error.code, answer), net) →
      s.connect.1 = .error (.protocol (decodeError answer).1 (decodeError answer).2)) ∧
    (2 ^ 16 ≤ (Text.utf8 s.config.tag).length → ∃ e, s.connect.1 = .error e) ∧
    (s.close.Disconnected ∧ s.close.close = s.close) ∧
    (∀ call : StoreCall, call.isRequest →
      ((call.perform s).1 = .error .notConnected ↔ s.connection = none) ∧
      (s.connection = none → (call.perform s).2 = s) ∧
      (s.connection.isSome → ((call.perform s).2.connection = none ↔
        ∃ e, (call.perform s).1 = .error e ∧ e.isConnection = true))) := by
  intro fresh s
  have hclosed : s.close.Disconnected := ⟨connection_close s, session_close s⟩
  refine ⟨connected_run calls fresh, fun t => connect_ok, fun e t => connect_error,
    fun c answer net => connect_refused, connect_longTag,
    ⟨hclosed, close_of_none hclosed.connection hclosed.session⟩, fun call hcall => ?_⟩
  have hanswered := perform_answered hcall s
  generalize (call.perform s).1 = result, (call.perform s).2 = t at hanswered
  cases hanswered with
  | refused h =>
    refine ⟨⟨fun _ => h, fun _ => rfl⟩, fun _ => rfl, fun hs => ?_⟩
    rw [h] at hs
    cases hs
  | lost hs he ht =>
    rename_i e
    have hconnected : s.connection ≠ none := Option.isSome_iff_ne_none.1 hs
    refine ⟨⟨?_, fun h => absurd h hconnected⟩, fun h => absurd h hconnected, fun _ => ?_⟩
    · rintro ⟨⟩
      cases he
    · exact ⟨fun _ => ⟨e, rfl, he⟩, fun _ => ht⟩
  | kept hs hresult ht =>
    have hconnected : s.connection ≠ none := Option.isSome_iff_ne_none.1 hs
    refine ⟨⟨fun h => absurd rfl (hresult _ h).2, fun h => absurd h hconnected⟩,
      fun h => absurd h hconnected, fun _ => ⟨fun h => absurd (ht ▸ h) hconnected, ?_⟩⟩
    rintro ⟨e, he, hlost⟩
    rw [(hresult e he).1] at hlost
    cases hlost

namespace Sample

/-- A peer that answers one request and then closes the connection. -/
def shortLived : ScriptedPeer where
  reply := some ⟨fun request => Frame.encode ⟨request.messageType, 0, request.requestId,
    ofNatLE 8 7 ++ [1, 0]⟩, true⟩

def config : ClientConfig := ⟨"localhost", 9009, .ofSeconds 5, .ofSeconds 5, "recorder"⟩

end Sample

/-- The handshake opens session seven, and the request after it loses the connection. -/
theorem lost_answer_disconnects :
    let fresh : Client ScriptedPeer := { config := Sample.config, net := Sample.shortLived }
    let s := StoreCall.run [.connect] fresh
    s.session = some 7 ∧ ((StoreCall.create 0).perform s).1 = .error (.connectionLost .earlyEnd) ∧
      ((StoreCall.create 0).perform s).2.connection = none := by
  obtain ⟨_, _, _, _, _, _, hrequest⟩ :=
    connection_follows_results Sample.config Sample.shortLived [.connect]
  refine ⟨by decide +kernel, rfl, ?_⟩
  exact ((hrequest (.create 0) rfl).2.2 (by decide +kernel)).2 ⟨_, rfl, rfl⟩

end Client

end SessionRecorder

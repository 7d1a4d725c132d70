import Mathlib.Logic.Relation
import SessionRecorder.Proofs.Frames
import SessionRecorder.Store.Client

/-!
A peer behind a network that loses things. Requests may be lost, come late or be
processed more than once, and answers may be lost or cut off, with every connection
failure that goes with that. The peer keeps the body of an append when it first sees
its key, and never answers with an error.
-/

namespace SessionRecorder

open Bytes Wire

namespace LossyPeer

/-- How a call on a connection fails. -/
inductive Loss where
  | fault (cause : IoFault)
  | silence

def Loss.ended {α : Type} : Loss → Io α
  | .fault cause => .fault cause
  | .silence => .timedOut

/-- What a peer answers. The answer to an append begins with the head of the context. -/
structure Answer where
  type : UInt16
  flags : UInt16
  id : UInt64
  head : ContextHead
  rest : Bytes
  noError : type ≠ MessageType.error.code
  fits : rest.length + 20 < 2 ^ 32

namespace Answer

def headOctets (a : Answer) : Bytes :=
  ofNatLE 8 a.head.context.toNat ++ ofNatLE 8 a.head.turn.toNat ++ ofNatLE 4 a.head.depth.toNat

/-- The answer to a request of the given type. -/
def frame (request : UInt16) (a : Answer) : Frame :=
  ⟨a.type, a.flags, a.id,
    if request = MessageType.appendTurn.code then a.headOctets ++ a.rest else a.rest⟩

end Answer

/-- What happens at one call on the network. -/
structure Move where
  /-- The places of the bodies, among those on their way, that the peer processes first. -/
  late : List Nat := []
  /-- How the call fails, if it does. -/
  loss : Option Loss := none
  /-- Whether the whole frame reaches the peer. -/
  arrives : Bool := true
  answer : Option Answer := none
  /-- How many octets of the answer reach the client. -/
  reaches : Nat := 0
  /-- How a read ends that waits for octets which do not come. -/
  shortage : Loss := .silence

end LossyPeer

structure LossyPeer where
  moves : Nat → LossyPeer.Move
  /-- How many calls there have been. -/
  calls : Nat := 0
  /-- How many connections have been opened. -/
  dialed : Nat := 0
  /-- The bodies of appends that the peer keeps, in the order in which it kept them. -/
  persisted : List Bytes := []
  /-- The bodies of appends that have been sent. Each may be processed at any time. -/
  inFlight : List Bytes := []
  /-- The octets that a connection holds for the client. -/
  unread : Nat → Bytes := fun _ => []

namespace LossyPeer

/-- The key in the body of an append: its last octets. -/
def keyOf (body : Bytes) : Bytes := body.drop (body.length - digestSize)

/-- Processes an append: a key that has been seen before changes nothing. -/
def persist (body : Bytes) (p : LossyPeer) : LossyPeer :=
  if p.persisted.any (keyOf · == keyOf body) then p
  else { p with persisted := p.persisted ++ [body] }

/-- Processes bodies that are on their way, by their places. -/
def process (places : List Nat) (p : LossyPeer) : LossyPeer :=
  places.foldl (fun p place => match p.inFlight[place]? with
    | some body => p.persist body
    | none => p) p

/-- The move for this call, and the peer once the late bodies are processed. -/
def next (p : LossyPeer) : Move × LossyPeer :=
  let move := p.moves p.calls
  (move, { p with calls := p.calls + 1 }.process move.late)

/-- The peer with other octets held for the client. -/
def hold (connection : Nat) (octets : Bytes) (p : LossyPeer) : LossyPeer :=
  { p with unread := fun c => if c = connection then octets else p.unread c }

/-- A request is on its way. -/
def send (request : Frame) (p : LossyPeer) : LossyPeer :=
  if request.messageType = MessageType.appendTurn.code then
    { p with inFlight := p.inFlight ++ [request.payload] }
  else p

/-- Answers a request. The body of an append is processed before. -/
def reply (connection : Nat) (move : Move) (request : Frame) (p : LossyPeer) : LossyPeer :=
  match move.answer with
  | none => p
  | some answer =>
    let p := if request.messageType = MessageType.appendTurn.code then p.persist request.payload
      else p
    p.hold connection (p.unread connection ++
      (answer.frame request.messageType).encode.take move.reaches)

def dial (p : LossyPeer) : Io Nat × LossyPeer :=
  let (move, p) := p.next
  match move.loss with
  | some loss => (loss.ended, p)
  | none => (.done p.dialed, { p with dialed := p.dialed + 1 }.hold p.dialed [])

def write (connection : Nat) (octets : Bytes) (p : LossyPeer) : Io Unit × LossyPeer :=
  let (move, p) := p.next
  let p := match Frame.decode octets with
    | .error _ => p
    | .ok request => if move.arrives then (p.send request).reply connection move request else p
  match move.loss with
  | some loss => (loss.ended, p)
  | none => (.done (), p)

def read (connection count : Nat) (p : LossyPeer) : Io Bytes × LossyPeer :=
  let (move, p) := p.next
  match move.loss with
  | some loss => (loss.ended, p)
  | none =>
    if count ≤ (p.unread connection).length then
      (.done ((p.unread connection).take count),
        p.hold connection ((p.unread connection).drop count))
    else (move.shortage.ended, p)

instance : Network LossyPeer where
  Connection := Nat
  dial _ := dial
  write := write
  read := read
  hangUp _ p := p

/-! ## What a peer does to the bodies it has -/

/-- One change at a peer while the given bodies are sent to it. -/
inductive Change (sent : List Bytes) : LossyPeer → LossyPeer → Prop where
  | other {p q : LossyPeer} (hp : q.persisted = p.persisted) (hf : q.inFlight = p.inFlight) :
      Change sent p q
  | send {p : LossyPeer} {body : Bytes} (h : body ∈ sent) :
      Change sent p { p with inFlight := p.inFlight ++ [body] }
  | process {p : LossyPeer} {body : Bytes} (h : body ∈ p.inFlight) :
      Change sent p (p.persist body)

/-- Any number of changes. -/
abbrev Changes (sent : List Bytes) : LossyPeer → LossyPeer → Prop :=
  Relation.ReflTransGen (Change sent)

/-- The peer has kept a body with the key of this one. -/
def Seen (body : Bytes) (p : LossyPeer) : Prop := ∃ b ∈ p.persisted, keyOf b = keyOf body

variable {sent : List Bytes} {p q : LossyPeer}

theorem persist_cases (body : Bytes) (p : LossyPeer) :
    (Seen body p ∧ p.persist body = p) ∨
      (¬ Seen body p ∧ p.persist body = { p with persisted := p.persisted ++ [body] }) := by
  unfold persist
  by_cases h : Seen body p
  · refine .inl ⟨h, ?_⟩
    obtain ⟨b, hb, hkey⟩ := h
    rw [if_pos (List.any_eq_true.2 ⟨b, hb, by simpa using hkey⟩)]
  · refine .inr ⟨h, ?_⟩
    rw [if_neg]
    intro hany
    obtain ⟨b, hb, hkey⟩ := List.any_eq_true.1 hany
    exact h ⟨b, hb, by simpa using hkey⟩

@[simp] theorem inFlight_persist (body : Bytes) (p : LossyPeer) :
    (p.persist body).inFlight = p.inFlight := by
  rcases persist_cases body p with ⟨_, h⟩ | ⟨_, h⟩ <;> rw [h]

@[simp] theorem unread_persist (body : Bytes) (p : LossyPeer) :
    (p.persist body).unread = p.unread := by
  rcases persist_cases body p with ⟨_, h⟩ | ⟨_, h⟩ <;> rw [h]

theorem seen_persist (body : Bytes) (p : LossyPeer) : Seen body (p.persist body) := by
  rcases persist_cases body p with ⟨h, hp⟩ | ⟨_, hp⟩ <;> rw [hp]
  · exact h
  · exact ⟨body, by simp, rfl⟩

theorem Seen.persist {body : Bytes} (h : Seen body p) (other : Bytes) :
    Seen body (p.persist other) := by
  obtain ⟨b, hb, hkey⟩ := h
  rcases persist_cases other p with ⟨_, hp⟩ | ⟨_, hp⟩ <;> rw [hp]
  · exact ⟨b, hb, hkey⟩
  · exact ⟨b, List.mem_append_left _ hb, hkey⟩

/-- What a peer has kept, it keeps. -/
theorem Changes.seen {body : Bytes} (h : Changes sent p q) (hp : Seen body p) : Seen body q := by
  induction h with
  | refl => exact hp
  | tail _ hstep ih =>
    cases hstep with
    | other hpersisted _ =>
      obtain ⟨b, hb, hkey⟩ := ih
      exact ⟨b, hpersisted ▸ hb, hkey⟩
    | send _ => exact ih
    | process _ => exact ih.persist _

theorem Changes.mono {more : List Bytes} (h : Changes sent p q) (hsub : sent ⊆ more) :
    Changes more p q := by
  refine Relation.ReflTransGen.mono ?_ _ _ h
  intro x y hxy
  cases hxy with
  | other hp hf => exact .other hp hf
  | send hs => exact .send (hsub hs)
  | process hs => exact .process hs

theorem process_spec (sent : List Bytes) (places : List Nat) (p : LossyPeer) :
    Changes sent p (p.process places) ∧ (p.process places).unread = p.unread := by
  induction places generalizing p with
  | nil => exact ⟨.refl, rfl⟩
  | cons place rest ih =>
    simp only [process, List.foldl_cons]
    cases hplace : p.inFlight[place]? with
    | none => exact ih p
    | some body =>
      obtain ⟨hchanges, hunread⟩ := ih (p.persist body)
      refine ⟨.head (.process (List.mem_of_getElem? hplace)) hchanges, ?_⟩
      rw [← unread_persist body p]
      exact hunread

theorem next_spec (sent : List Bytes) (p : LossyPeer) :
    Changes sent p p.next.2 ∧ p.next.2.unread = p.unread := by
  let called : LossyPeer := { p with calls := p.calls + 1 }
  obtain ⟨hchanges, hunread⟩ := process_spec sent (p.moves p.calls).late called
  have hcalled : Change sent p called := .other rfl rfl
  exact ⟨.head hcalled hchanges, hunread⟩

theorem dial_spec (sent : List Bytes) (p : LossyPeer) :
    Changes sent p p.dial.2 ∧ ∀ c, p.dial.1 = .done c → p.dial.2.unread c = [] := by
  obtain ⟨hchanges, _⟩ := next_spec sent p
  unfold dial
  rcases hnext : p.next with ⟨move, q⟩
  rw [hnext] at hchanges
  cases hloss : move.loss with
  | some loss =>
    simp only [hloss]
    refine ⟨hchanges, ?_⟩
    intro c hc
    cases loss <;> cases hc
  | none =>
    simp only [hloss]
    refine ⟨hchanges.tail (.other rfl rfl), ?_⟩
    rintro c ⟨⟩
    simp [hold]

/-- The bodies that a request sends to the peer as appends. -/
def appended (request : Frame) : List Bytes :=
  if request.messageType = MessageType.appendTurn.code then [request.payload] else []

theorem changes_send (request : Frame) (p : LossyPeer) :
    Changes (appended request) p (p.send request) ∧ (p.send request).unread = p.unread := by
  unfold send appended
  split
  · exact ⟨.single (.send (by simp)), rfl⟩
  · exact ⟨.refl, rfl⟩

/-- What can have become of a peer when a request was written: the connection holds
nothing, or the answer as far as it comes. -/
structure Written (c : Nat) (request : Frame) (p q : LossyPeer) : Prop where
  changes : Changes (appended request) p q
  held : q.unread c = [] ∨ ∃ (answer : Answer) (reaches : Nat),
    q.unread c = (answer.frame request.messageType).encode.take reaches ∧
      (request.messageType = MessageType.appendTurn.code → Seen request.payload q)

theorem reply_spec (c : Nat) (move : Move) (request : Frame) (p : LossyPeer)
    (hquiet : p.unread c = []) :
    Written c request p ((p.send request).reply c move request) := by
  obtain ⟨hsend, hunread⟩ := changes_send request p
  simp only [reply]
  cases move.answer with
  | none => exact ⟨hsend, .inl (by rw [hunread, hquiet])⟩
  | some answer =>
    by_cases htype : request.messageType = MessageType.appendTurn.code
    · have hmem : request.payload ∈ (p.send request).inFlight := by
        simp [send, htype]
      simp only [htype, ↓reduceIte]
      refine ⟨(hsend.tail (.process hmem)).tail (.other rfl rfl),
        .inr ⟨answer, move.reaches, ?_, ?_⟩⟩
      · simp [hold, hunread, hquiet, htype]
      · intro _
        exact seen_persist request.payload (p.send request)
    · simp only [htype, ↓reduceIte]
      refine ⟨hsend.tail (.other rfl rfl), .inr ⟨answer, move.reaches, ?_, ?_⟩⟩
      · simp [hold, hunread, hquiet]
      · intro h
        exact absurd h htype

theorem write_spec (c : Nat) (request : Frame) (hfits : request.payload.length < 2 ^ 32)
    (p : LossyPeer) (hquiet : p.unread c = []) :
    Written c request p (p.write c request.encode).2 := by
  obtain ⟨hnext, hunread⟩ := next_spec (appended request) p
  have hdecode : Frame.decode request.encode = .ok request := by
    simpa using Frame.decode_append hfits []
  unfold write
  rcases hmove : p.next with ⟨move, called⟩
  rw [hmove] at hnext hunread
  have hstill : called.unread c = [] := by rw [hunread, hquiet]
  obtain ⟨hreply, hheld⟩ := reply_spec c move request called hstill
  have hwritten : Written c request p (if move.arrives then
      (called.send request).reply c move request else called) := by
    split
    · exact ⟨hnext.trans hreply, hheld⟩
    · exact ⟨hnext, .inl hstill⟩
  simp only [hdecode]
  cases move.loss with
  | none => exact hwritten
  | some loss => exact hwritten

/-- A read changes nothing at the peer. Where it succeeds, it takes octets off the front
of what the connection holds. -/
theorem read_spec (c count : Nat) (p : LossyPeer) :
    Changes [] p (p.read c count).2 ∧ ∀ octets, (p.read c count).1 = .done octets →
      count ≤ (p.unread c).length ∧ octets = (p.unread c).take count ∧
        (p.read c count).2.unread c = (p.unread c).drop count := by
  obtain ⟨hnext, hunread⟩ := next_spec [] p
  unfold read
  rcases hmove : p.next with ⟨move, called⟩
  rw [hmove] at hnext hunread
  simp only at hunread
  cases hloss : move.loss with
  | some loss =>
    simp only [hloss]
    refine ⟨hnext, ?_⟩
    intro octets h
    cases loss <;> cases h
  | none =>
    simp only [hloss]
    split
    · rename_i henough
      refine ⟨hnext.tail (.other rfl rfl), ?_⟩
      rintro octets ⟨⟩
      rw [hunread] at henough
      simp [hold, hunread, henough]
    · refine ⟨hnext, ?_⟩
      intro octets h
      cases hshort : move.shortage <;> rw [hshort] at h <;> cases h

/-- A header that is read is that of the answer, and what the connection still holds is
of its payload. -/
theorem read_header {c reaches : Nat} {answer : Frame} {octets : Bytes}
    (hheld : p.unread c = answer.encode.take reaches)
    (hread : p.read c headerSize = (.done octets, q)) :
    Header.decode octets = .ok answer.header ∧
      q.unread c = answer.payload.take (reaches - headerSize) := by
  obtain ⟨_, hheader⟩ := read_spec c headerSize p
  rw [hread] at hheader
  obtain ⟨henough, hoctets, hrest⟩ := hheader octets rfl
  have hsize : answer.header.encode.length = headerSize := Header.length_encode answer.header
  have hreaches : headerSize ≤ reaches := by
    rw [hheld, List.length_take] at henough
    omega
  rw [hheld] at hoctets hrest
  constructor
  · rw [hoctets, List.take_take, Nat.min_eq_left hreaches, Frame.encode_eq, List.take_left' hsize]
    simpa using Header.decode_append answer.header []
  · rw [hrest, Frame.encode_eq, List.drop_take, List.drop_left' hsize]

/-- A payload that is read is all of it. -/
theorem read_payload {c reaches : Nat} {payload body : Bytes}
    (hheld : p.unread c = payload.take reaches)
    (hread : p.read c payload.length = (.done body, q)) : body = payload ∧ q.unread c = [] := by
  obtain ⟨_, hpayload⟩ := read_spec c payload.length p
  rw [hread] at hpayload
  obtain ⟨hall, hbody, hrest⟩ := hpayload body rfl
  rw [hheld] at hall hbody hrest
  rw [List.length_take] at hall
  constructor
  · rw [hbody, List.take_take, Nat.min_eq_left (by omega), List.take_length]
  · rw [hrest, List.drop_eq_nil_iff, List.length_take]
    omega

/-- Whatever part of an answer comes, the client takes all of it or nothing. -/
theorem receive_spec (c : Network.Connection LossyPeer) {answer : Frame}
    (hfits : answer.payload.length < 2 ^ 32) (reaches : Nat) (p : LossyPeer)
    (hheld : p.unread c = answer.encode.take reaches) :
    let ended := Client.receive c p
    Changes [] p ended.2 ∧ ∀ result, ended.1 = .done result →
      result = (answer.messageType, answer.payload) ∧ ended.2.unread c = [] := by
  have hfirst := (read_spec c headerSize p).1
  unfold Client.receive Io.andThen
  rcases hread : Network.read c headerSize p with ⟨ended, first⟩
  rw [show p.read c headerSize = (ended, first) from hread] at hfirst
  cases ended with
  | fault cause => exact ⟨hfirst, fun result h => by cases h⟩
  | timedOut => exact ⟨hfirst, fun result h => by cases h⟩
  | done octets =>
    obtain ⟨hdecode, hbody⟩ := read_header hheld hread
    simp only [hdecode, Frame.header_length hfits]
    split
    · exact ⟨hfirst, fun result h => by cases h⟩
    · split
      · rename_i hempty
        have hnil : answer.payload = [] := List.length_eq_zero_iff.1 hempty
        refine ⟨hfirst, ?_⟩
        rintro result ⟨⟩
        exact ⟨by rw [hnil]; rfl, by simp [hbody, hnil]⟩
      · have hsecond := (read_spec c answer.payload.length first).1
        rcases hread : Network.read c answer.payload.length first with ⟨ended, last⟩
        rw [show first.read c answer.payload.length = (ended, last) from hread] at hsecond
        have hboth := hfirst.trans hsecond
        cases ended with
        | fault cause => exact ⟨hboth, fun result h => by cases h⟩
        | timedOut => exact ⟨hboth, fun result h => by cases h⟩
        | done body =>
          obtain ⟨rfl, hempty⟩ := read_payload hbody hread
          refine ⟨hboth, ?_⟩
          rintro result ⟨⟩
          exact ⟨rfl, hempty⟩

/-- Nothing can be received where nothing is held. -/
theorem receive_nothing (c : Network.Connection LossyPeer) (p : LossyPeer)
    (hquiet : p.unread c = []) :
    let ended := Client.receive c p
    Changes [] p ended.2 ∧ ∀ result, ended.1 ≠ .done result := by
  obtain ⟨hfirst, hheader⟩ := read_spec c headerSize p
  unfold Client.receive Io.andThen
  rcases hread : Network.read c headerSize p with ⟨ended, first⟩
  rw [show p.read c headerSize = (ended, first) from hread] at hfirst hheader
  cases ended with
  | fault cause => exact ⟨hfirst, fun result h => by cases h⟩
  | timedOut => exact ⟨hfirst, fun result h => by cases h⟩
  | done octets =>
    obtain ⟨henough, _⟩ := hheader octets rfl
    rw [hquiet] at henough
    cases henough

theorem Answer.length_payload (answer : Answer) (request : UInt16) :
    (answer.frame request).payload.length < 2 ^ 32 ∧
      (request = MessageType.appendTurn.code → 20 ≤ (answer.frame request).payload.length) := by
  have hfits := answer.fits
  unfold Answer.frame
  split
  · simp only [headOctets, List.length_append, length_ofNatLE]
    omega
  · rename_i h
    refine ⟨?_, fun hr => absurd hr h⟩
    simp only
    omega

/-- Without an answer the connection is at fault, and not the peer. -/
theorem outcome_lost (type : MessageType) (limit : Duration) {ended : Io (UInt16 × Bytes)}
    (h : ∀ result, ended ≠ .done result) :
    ∃ e, Client.outcome type limit ended = .error e ∧ e.isProtocol = false ∧
      e.isConnection = true := by
  cases ended with
  | done result => exact absurd rfl (h result)
  | fault cause => exact ⟨_, rfl, rfl, rfl⟩
  | timedOut => exact ⟨_, rfl, rfl, rfl⟩

/-- What can have become of a peer in an exchange. An answer was meant for this request,
and is taken whole; and no failure is the peer's answer. -/
structure Exchanged (c : Nat) (type : MessageType) (request : Frame)
    (outcome : Except StoreError Bytes) (p q : LossyPeer) : Prop where
  changes : Changes (appended request) p q
  answered : ∀ answer, outcome = .ok answer → q.unread c = [] ∧
    (type = .appendTurn → 20 ≤ answer.length ∧ Seen request.payload q)
  failed : ∀ e, outcome = .error e → e.isProtocol = false ∧
    (e.isConnection = false → q.unread c = [])

/-- Without an answer the connection is at fault. -/
theorem Exchanged.lost {c : Nat} {type : MessageType} {request : Frame} (limit : Duration)
    {ended : Io (UInt16 × Bytes)} (hchanges : Changes (appended request) p q)
    (hended : ∀ result, ended ≠ .done result) :
    Exchanged c type request (Client.outcome type limit ended) p q := by
  obtain ⟨e, herror, hprotocol, hconnection⟩ := outcome_lost type limit hended
  rw [herror]
  refine ⟨hchanges, fun answer h => (by cases h), ?_⟩
  rintro e ⟨⟩
  refine ⟨hprotocol, ?_⟩
  intro h
  rw [hconnection] at h
  cases h

/-- An answer that is taken whole is what the request asked for. -/
theorem Exchanged.answer {c : Nat} {type : MessageType} {request : Frame} (limit : Duration)
    (answer : Answer) (hchanges : Changes (appended request) p q) (hempty : q.unread c = [])
    (hseen : type = .appendTurn → Seen request.payload q) :
    Exchanged c type request (Client.outcome type limit
      (.done (answer.type, (answer.frame type.code).payload))) p q := by
  have houtcome : Client.outcome type limit (.done (answer.type, (answer.frame type.code).payload))
      = .ok (answer.frame type.code).payload := if_neg answer.noError
  rw [houtcome]
  refine ⟨hchanges, ?_, fun e h => (by cases h)⟩
  rintro octets ⟨⟩
  refine ⟨hempty, ?_⟩
  rintro rfl
  exact ⟨(answer.length_payload _).2 rfl, hseen rfl⟩

theorem exchange_spec (c : Network.Connection LossyPeer) (type : MessageType) (id : UInt64)
    (body : Bytes) (limit : Duration) (p : LossyPeer) (hquiet : p.unread c = []) :
    let r := Client.exchange c type id body limit p
    Exchanged c type ⟨type.code, 0, id, body⟩ r.1 p r.2 := by
  unfold Client.exchange Frame.encode?
  by_cases hfits : body.length < 2 ^ 32
  · simp only [hfits, ↓reduceIte]
    let request : Frame := ⟨type.code, 0, id, body⟩
    obtain ⟨hwrite, hheld⟩ := write_spec c request hfits p hquiet
    unfold Client.converse Io.andThen
    rcases hwritten : Network.write c request.encode p with ⟨ended, sent⟩
    rw [show p.write c request.encode = (ended, sent) from hwritten] at hwrite hheld
    cases ended with
    | fault cause => exact .lost limit hwrite (fun result h => by cases h)
    | timedOut => exact .lost limit hwrite (fun result h => by cases h)
    | done _ =>
      rcases hheld with hnone | ⟨answer, reaches, hanswer, hseen⟩
      · obtain ⟨hreceive, hnothing⟩ := receive_nothing c sent hnone
        exact .lost limit (hwrite.trans (hreceive.mono (List.nil_subset _))) hnothing
      · obtain ⟨hreceive, hwhole⟩ :=
          receive_spec c (answer.length_payload type.code).1 reaches sent hanswer
        rcases hreceived : Client.receive c sent with ⟨ended, last⟩
        simp only
        rw [hreceived] at hreceive hwhole ⊢
        have hchanges := hwrite.trans (hreceive.mono (List.nil_subset _))
        cases ended with
        | fault cause => exact .lost limit hchanges (fun result h => by cases h)
        | timedOut => exact .lost limit hchanges (fun result h => by cases h)
        | done result =>
          obtain ⟨hresult, hempty⟩ := hwhole result rfl
          rw [hresult]
          refine .answer limit answer hchanges hempty ?_
          intro htype
          exact hreceive.seen (hseen (congrArg MessageType.code htype))
  · simp only [hfits, ↓reduceIte]
    refine ⟨.refl, fun answer h => (by cases h), ?_⟩
    rintro e ⟨⟩
    exact ⟨rfl, fun _ => hquiet⟩

end LossyPeer

end SessionRecorder

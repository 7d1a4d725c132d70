import SessionRecorder.Proofs.LossyPeer

/-!
A client of a lossy peer. Between its calls, a connection that it holds has nothing
left to read, and so no answer is taken for that to another request. An append that
succeeds has been kept by the peer, and none fails by an answer (`append_spec`).
-/

namespace SessionRecorder

open Wire LossyPeer

/-- The body of the request that appends a delivery. -/
def Delivery.requestBody (d : Delivery) : Bytes :=
  (AppendRequest.ofPayload d.context 0 d.type.id d.type.version d.payload).body

namespace Client

/-- A connection that the client holds has nothing left to read. -/
def Idle (s : Client LossyPeer) : Prop := ∀ c, s.connection = some c → s.net.unread c = []

/-- One call of a client other than an append. -/
inductive Asked : Client LossyPeer → Client LossyPeer → Prop where
  | connect {s : Client LossyPeer} : Asked s (ContextStore.connect s).2
  | create {s : Client LossyPeer} (base : UInt64) : Asked s (ContextStore.create base s).2
  | fork {s : Client LossyPeer} (base : UInt64) : Asked s (ContextStore.fork base s).2
  | head {s : Client LossyPeer} (context : UInt64) : Asked s (ContextStore.head context s).2
  | close {s : Client LossyPeer} : Asked s (ContextStore.close s)

variable {s : Client LossyPeer}

theorem idle_of_none (h : s.connection = none) : s.Idle := by
  intro c hc
  rw [h] at hc
  cases hc

theorem request_spec (type : MessageType) (body : Bytes) (h : s.Idle) :
    let r := s.request type body
    r.2.Idle ∧ Changes (if type = .appendTurn then [body] else []) s.net r.2.net ∧
      (∀ answer, r.1 = .ok answer → type = .appendTurn →
        20 ≤ answer.length ∧ Seen body r.2.net) ∧
      (∀ e, r.1 = .error e → e.isProtocol = false) := by
  have happended (id : UInt64) : appended ⟨type.code, 0, id, body⟩ =
      if type = .appendTurn then [body] else [] := by
    cases type <;> rfl
  unfold request
  cases hconnection : s.connection with
  | none =>
    refine ⟨h, .refl, fun answer h => (by cases h), ?_⟩
    rintro e ⟨⟩
    rfl
  | some c =>
    obtain ⟨hchanges, hok, herror⟩ := exchange_spec c type (s.lastRequest + 1) body
      s.config.requestTimeout s.net (h c hconnection)
    rcases hexchange : exchange c type (s.lastRequest + 1) body
      s.config.requestTimeout s.net with ⟨e | answer, net⟩ <;>
      rw [hexchange, happended] at hchanges <;>
      rw [hexchange] at hok herror <;>
      simp only [hexchange]
    · obtain ⟨hprotocol, hempty⟩ := herror e rfl
      split
      · refine ⟨idle_of_none rfl, hchanges, fun answer h => (by cases h), ?_⟩
        rintro e ⟨⟩
        exact hprotocol
      · rename_i hfault
        refine ⟨?_, hchanges, fun answer h => (by cases h), ?_⟩
        · rintro c ⟨⟩
          exact hempty (by simpa using hfault)
        · rintro e ⟨⟩
          exact hprotocol
    · obtain ⟨hempty, hseen⟩ := hok answer rfl
      refine ⟨?_, hchanges, ?_, fun e h => (by cases h)⟩
      · rintro c ⟨⟩
        exact hempty
      · rintro answer ⟨⟩
        exact hseen

theorem body_of_encode {d : Delivery} {body : Bytes}
    (h : (AppendRequest.ofPayload d.context 0 d.type.id d.type.version d.payload).encode =
      .ok body) : d.requestBody = body := by
  simp only [AppendRequest.encode] at h
  split at h
  · cases h
  · split at h
    · cases h
    · exact Except.ok.inj h

theorem append_spec (d : Delivery) (h : s.Idle) :
    let r := s.append 0 d
    r.2.Idle ∧ Changes [d.requestBody] s.net r.2.net ∧
      (∀ ack, r.1 = .ok ack → Seen d.requestBody r.2.net) ∧
      (∀ e, r.1 = .error e → e.isProtocol = false) := by
  unfold append
  split
  · refine ⟨h, .refl, fun ack h => (by cases h), ?_⟩
    rintro e ⟨⟩
    rfl
  · rcases hencode : (AppendRequest.ofPayload d.context 0 d.type.id d.type.version
      d.payload).encode with e | body
    · refine ⟨h, .refl, fun ack h => (by cases h), ?_⟩
      rintro e ⟨⟩
      rfl
    · obtain rfl := body_of_encode hencode
      obtain ⟨hidle, hchanges, hok, herror⟩ := request_spec .appendTurn d.requestBody h
      rcases hrequest : s.request .appendTurn d.requestBody with ⟨e | answer, next⟩ <;>
        rw [hrequest] at hidle hchanges hok herror <;>
        simp only [hrequest]
      · refine ⟨hidle, hchanges, fun ack h => (by cases h), ?_⟩
        rintro e ⟨⟩
        exact herror e rfl
      · obtain ⟨hlength, hseen⟩ := hok answer rfl rfl
        refine ⟨hidle, hchanges, fun _ _ => hseen, ?_⟩
        intro e he
        simp only [Except.bind, contextHead, require, Nat.not_lt.2 hlength, ↓reduceIte] at he
        cases he

theorem close_idle (s : Client LossyPeer) : s.close.Idle ∧ s.close.net = s.net := by
  unfold close Idle
  split
  · exact ⟨fun c hc => (by cases hc), rfl⟩
  · rename_i hnone
    exact ⟨idle_of_none hnone, rfl⟩

theorem greet_spec (c : Network.Connection LossyPeer) (h : s.connection = none)
    (hquiet : s.net.unread c = []) :
    (greet c s).2.Idle ∧ Changes [] s.net (greet c s).2.net := by
  unfold greet
  cases handshake s.config.tag with
  | error e => exact ⟨idle_of_none h, .refl⟩
  | ok body =>
    obtain ⟨hchanges, hok, _⟩ := exchange_spec c .hello (s.lastRequest + 1) body
      s.config.requestTimeout s.net hquiet
    simp only
    rcases hexchange : exchange c .hello (s.lastRequest + 1) body
      s.config.requestTimeout s.net with ⟨e | answer, net⟩ <;>
      rw [hexchange] at hchanges hok
    · exact ⟨idle_of_none h, hchanges⟩
    · refine ⟨?_, hchanges⟩
      rintro c ⟨⟩
      exact (hok answer rfl).1

theorem connect_spec (s : Client LossyPeer) :
    s.connect.2.Idle ∧ Changes [] s.net s.connect.2.net := by
  obtain ⟨_, hnet⟩ := close_idle s
  have hnone : s.close.connection = none := by
    unfold close
    split
    · rfl
    · assumption
  obtain ⟨hchanges, hdialed⟩ := dial_spec [] s.close.net
  rw [← hnet]
  unfold connect
  rcases hdial : Network.dial s.close.config.address s.close.net with ⟨ended, net⟩
  rw [show s.close.net.dial = (ended, net) from hdial] at hchanges hdialed
  simp only [hdial]
  cases ended with
  | timedOut => exact ⟨idle_of_none hnone, hchanges⟩
  | fault cause => exact ⟨idle_of_none hnone, hchanges⟩
  | done c =>
    obtain ⟨hidle, hgreeted⟩ := greet_spec (s := { s.close with net }) c hnone (hdialed c rfl)
    exact ⟨hidle, hchanges.trans hgreeted⟩

/-- What a client asks sends no append. -/
theorem Asked.spec {t : Client LossyPeer} (hasked : Asked s t) (h : s.Idle) :
    t.Idle ∧ Changes [] s.net t.net := by
  have hask {α : Type} (type : MessageType) (htype : type ≠ .appendTurn) (id : UInt64)
      (decode : Bytes → Except StoreError α) :
      (ask type id decode s).2.Idle ∧ Changes [] s.net (ask type id decode s).2.net := by
    obtain ⟨hidle, hchanges, _, _⟩ := request_spec type (Bytes.ofNatLE 8 id.toNat) h
    rw [if_neg htype] at hchanges
    exact ⟨hidle, hchanges⟩
  cases hasked with
  | connect => exact connect_spec s
  | create base => exact hask .createContext (by decide) base _
  | fork base => exact hask .forkContext (by decide) base _
  | head context => exact hask .getHead (by decide) context _
  | close =>
    obtain ⟨hidle, hnet⟩ := close_idle s
    exact ⟨hidle, .single (.other (by rw [← hnet]; rfl) (by rw [← hnet]; rfl))⟩

end Client

end SessionRecorder

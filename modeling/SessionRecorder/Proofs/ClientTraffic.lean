import SessionRecorder.Proofs.Attribution

/-!
What the calls of a client do to its network. They hang up, dial, and hold exchanges that each begin
with a request of the call's own type; so a property of networks that these keep is kept by the call
(`Keeps.perform`).
-/

namespace SessionRecorder

open Bytes Wire

namespace Client

variable {ν : Type} [Network ν]

/-! ## Answers -/

section

variable {P : ν → Prop}

omit [Network ν] in
theorem andThen_keeps {α β : Type} {ended : Io α × ν} {next : α → ν → Io β × ν}
    (hnext : ∀ a net, P net → P (next a net).2) (h : P ended.2) : P (Io.andThen ended next).2 := by
  rcases ended with ⟨result | cause | _, net⟩
  · exact hnext result net h
  · exact h
  · exact h

/-- To receive an answer keeps what reading keeps. -/
theorem receive_keeps (hread : ∀ c count net, P net → P (Network.read c count net).2)
    (c : Network.Connection ν) {net : ν} (h : P net) : P (receive c net).2 := by
  refine andThen_keeps (fun octets net hnet => ?_) (hread c headerSize net h)
  cases Header.decode octets with
  | error e => exact hnet
  | ok h =>
    simp only
    split
    · exact hnet
    · split
      · exact hnet
      · exact andThen_keeps (fun _ _ hnet => hnet) (hread c _ net hnet)

/-- An exchange leaves what its write has left, as far as reading keeps it. -/
theorem converse_keeps (hread : ∀ c count net, P net → P (Network.read c count net).2)
    (c : Network.Connection ν) (frame : Bytes) {net : ν} (h : P (Network.write c frame net).2) :
    P (converse c frame net).2 :=
  andThen_keeps (fun _ _ => receive_keeps hread c) h

end

/-! ## Calls -/

/-- Hanging up, dialling and exchanges with requests of these types keep a property of a network. -/
structure Keeps (types : MessageType → Prop) (P : ν → Prop) : Prop where
  hangUp : ∀ c net, P net → P (Network.hangUp c net)
  dial : ∀ address net, P net → P (Network.dial address net).2
  converse : ∀ c type id body net, types type → body.length < 2 ^ 32 → P net →
    P (converse c (Frame.encode ⟨type.code, 0, id, body⟩) net).2

namespace Keeps

variable {types : MessageType → Prop} {P : ν → Prop} {type : MessageType} {s : Client ν}

theorem exchange (h : Keeps types P) (htype : types type) (c : Network.Connection ν) (id : UInt64)
    (body : Bytes) (limit : Duration) {net : ν} (hnet : P net) :
    P (exchange c type id body limit net).2 := by
  unfold Client.exchange Frame.encode?
  by_cases hlength : body.length < 2 ^ 32
  · simp only [hlength, ↓reduceIte]
    exact h.converse c type id body net htype hlength hnet
  · simp only [hlength, ↓reduceIte]
    exact hnet

theorem request (h : Keeps types P) (htype : types type) (body : Bytes) (hs : P s.net) :
    P (s.request type body).2.net := by
  unfold Client.request
  cases s.connection with
  | none => exact hs
  | some c =>
    have hexchange := h.exchange htype c (s.lastRequest + 1) body s.config.requestTimeout hs
    simp only
    split
    · split
      · exact h.hangUp c _ hexchange
      · exact hexchange
    · exact hexchange

theorem close (h : Keeps types P) (hs : P s.net) : P s.close.net := by
  unfold Client.close
  split
  · exact h.hangUp _ _ hs
  · exact hs

theorem greet (h : Keeps types P) (hhello : types .hello) (c : Network.Connection ν)
    (hs : P s.net) : P (greet c s).2.net := by
  unfold Client.greet
  cases handshake s.config.tag with
  | error e => exact h.hangUp c _ hs
  | ok body =>
    have hexchange := h.exchange hhello c (s.lastRequest + 1) body s.config.requestTimeout hs
    simp only
    split
    · exact h.hangUp c _ hexchange
    · exact hexchange

theorem connect (h : Keeps types P) (hhello : types .hello) (hs : P s.net) :
    P s.connect.2.net := by
  have hdial := h.dial s.close.config.address s.close.net (h.close hs)
  unfold Client.connect
  rcases hdialed : Network.dial s.close.config.address s.close.net with ⟨ended, net⟩
  rw [hdialed] at hdial
  simp only [hdialed]
  cases ended with
  | timedOut | fault cause => exact hdial
  | done c => exact h.greet hhello c hdial

/-- A call keeps what its requests keep. -/
theorem perform {call : StoreCall} (h : Keeps (call.type? = some ·) P) (hs : P s.net) :
    P (call.perform s).2.net := by
  cases call with
  | connect => exact h.connect rfl hs
  | close => exact h.close hs
  | create id | fork id | head id => exact h.request rfl (ofNatLE 8 id.toNat) hs
  | append parent d =>
    change P (s.append parent d).2.net
    unfold Client.append
    split
    · exact hs
    · split
      · exact hs
      · exact h.request rfl _ hs

end Keeps

end Client

end SessionRecorder

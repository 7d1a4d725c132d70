import SessionRecorder.Proofs.ClientTraffic
import SessionRecorder.Proofs.NetworkViews

/-!
A client whose network is tapped: what is written to it is noted, and decides nothing
(`perform_untapped`). Of all calls only an append writes a request to append, and at most one,
with the body that the delivery has (`appends_append`).
-/

namespace SessionRecorder

open Wire

/-- A network with the octets of each write to it, oldest first. -/
structure Tapped (ν : Type) where
  net : ν
  written : List Bytes := []

namespace Tapped

variable {ν : Type}

/-- A call on the network itself. -/
def through {α : Type} (call : ν → α × ν) (t : Tapped ν) : α × Tapped ν :=
  ((call t.net).1, { t with net := (call t.net).2 })

def note (octets : Bytes) (t : Tapped ν) : Tapped ν := { t with written := t.written ++ [octets] }

/-- The bodies of the requests to append in octets that were written. -/
def appendBodies (octets : Bytes) : List Bytes :=
  match Frame.decode octets with
  | .ok request => LossyPeer.appended request
  | .error _ => []

/-- The bodies of all requests to append that were written, oldest first. -/
def appends (t : Tapped ν) : List Bytes := t.written.flatMap appendBodies

variable [Network ν]

instance : Network (Tapped ν) where
  Connection := Network.Connection ν
  dial address := through (Network.dial address)
  write c octets t := (t.note octets).through (Network.write c octets)
  read c count := through (Network.read c count)
  hangUp c t := { t with net := Network.hangUp c t.net }

/-- What is noted decides nothing. -/
def view : View (Tapped ν) ν where
  net := net
  connection := id
  dial address t := by
    change _ = ((Network.dial address t.net).1.map id, (Network.dial address t.net).2)
    rw [Io.map_id]
  write _ _ _ := rfl
  read _ _ _ := rfl
  hangUp _ _ := rfl

end Tapped

/-- The body of the request that appends a delivery behind the head of its context. -/
def Delivery.encode (d : Delivery) : Except WireError Bytes :=
  (AppendRequest.ofPayload d.context 0 d.type.id d.type.version d.payload).encode

namespace Client

variable {ν : Type} [Network ν]

/-! ## The calls without the tap -/

/-- The client of the network itself. -/
def untapped (s : Client (Tapped ν)) : Client ν where
  config := s.config
  net := s.net.net
  connection := s.connection
  lastRequest := s.lastRequest
  session := s.session

/-- The result of a call, with the network itself. -/
def bare {α : Type} (r : α × Tapped ν) : α × ν := (r.1, r.2.net)

/-- The result of a call of the client, with the client of the network itself. -/
def plain {α : Type} (r : α × Client (Tapped ν)) : α × Client ν := (r.1, r.2.untapped)

theorem client_view (s : Client (Tapped ν)) : Tapped.view.client s = s.untapped := by
  have hconnection : s.connection.map Tapped.view.connection = s.connection :=
    Option.map_id_apply
  unfold View.client untapped
  rw [hconnection]
  rfl

variable (c : Network.Connection (Tapped ν)) (type : MessageType) (id : UInt64) (body : Bytes)
  (limit : Duration)

theorem bare_converse (frame : Bytes) (t : Tapped ν) :
    bare (converse c frame t) = converse (ν := ν) c frame t.net :=
  (Tapped.view.converse c frame t).symm

/-- The tap decides nothing: a call of the store ends as it does without the tap. -/
theorem perform_untapped (call : StoreCall) (s : Client (Tapped ν)) :
    plain (call.perform s) = call.perform s.untapped := by
  rw [← client_view, Tapped.view.perform]
  exact Prod.ext rfl (client_view _).symm

/-! ## What each call writes -/

theorem written_converse (frame : Bytes) (t : Tapped ν) :
    (converse c frame t).2.written = t.written ++ [frame] :=
  converse_keeps (P := fun t' => t'.written = t.written ++ [frame]) (fun _ _ _ h => h) c frame rfl

/-- An exchange writes its request, or nothing. -/
theorem appends_exchange (t : Tapped ν) :
    (exchange c type id body limit t).2.appends = t.appends ∨
      (exchange c type id body limit t).2.appends =
        t.appends ++ LossyPeer.appended ⟨type.code, 0, id, body⟩ := by
  unfold exchange Frame.encode?
  by_cases hlength : body.length < 2 ^ 32
  · have hdecode := Frame.decode_append (f := ⟨type.code, 0, id, body⟩) hlength []
    rw [List.append_nil] at hdecode
    refine .inr ?_
    simp only [hlength, ↓reduceIte, Tapped.appends, written_converse, List.flatMap_append,
      List.flatMap_singleton, Tapped.appendBodies, hdecode]
  · exact .inl (by simp only [hlength, ↓reduceIte])

/-- A request writes its frame, or nothing. -/
theorem appends_request (s : Client (Tapped ν)) :
    (s.request type body).2.net.appends = s.net.appends ∨
      type = .appendTurn ∧ (s.request type body).2.net.appends = s.net.appends ++ [body] := by
  unfold request
  cases hconnection : s.connection with
  | none => exact .inl rfl
  | some c =>
    have hwritten := appends_exchange c type (s.lastRequest + 1) body s.config.requestTimeout s.net
    have happended : LossyPeer.appended ⟨type.code, 0, s.lastRequest + 1, body⟩ =
        if type = .appendTurn then [body] else [] := by
      cases type <;> rfl
    rcases hexchange : exchange c type (s.lastRequest + 1) body s.config.requestTimeout s.net with
      ⟨result, t⟩
    rw [hexchange, happended] at hwritten
    have hnet : t.appends = s.net.appends ∨
        type = .appendTurn ∧ t.appends = s.net.appends ++ [body] := by
      split at hwritten
      · rename_i htype
        exact hwritten.imp_right fun h => ⟨htype, h⟩
      · rw [List.append_nil, or_self] at hwritten
        exact .inl hwritten
    cases result with
    | ok answer => simpa only [hexchange] using hnet
    | error e =>
      simp only [hexchange]
      split <;> exact hnet

/-- An append writes the body of the delivery, or nothing. -/
theorem appends_append (d : Delivery) (s : Client (Tapped ν)) :
    (s.append 0 d).2.net.appends = s.net.appends ∨
      ∃ body, d.encode = .ok body ∧ (s.append 0 d).2.net.appends = s.net.appends ++ [body] := by
  unfold append
  split
  · exact .inl rfl
  · split
    · exact .inl rfl
    · rename_i body hbody
      rcases appends_request .appendTurn body s with hnothing | ⟨_, hone⟩
      · exact .inl hnothing
      · exact .inr ⟨body, hbody, hone⟩

/-- No other call than an append writes a request to append. -/
theorem appends_perform {call : StoreCall} (h : ∀ parent d, call ≠ .append parent d)
    (s : Client (Tapped ν)) : (call.perform s).2.net.appends = s.net.appends := by
  have hkeeps : Keeps (call.type? = some ·) fun t : Tapped ν => t.appends = s.net.appends := by
    refine ⟨fun _ _ hnet => hnet, fun _ _ hnet => hnet, ?_⟩
    intro c type id body t htype hlength hnet
    have hdecode := Frame.decode_append (f := ⟨type.code, 0, id, body⟩) hlength []
    rw [List.append_nil] at hdecode
    have hother : LossyPeer.appended ⟨type.code, 0, id, body⟩ = [] := by
      cases type with
      | appendTurn =>
        cases call with
        | append parent d => exact absurd rfl (h parent d)
        | _ => cases htype
      | _ => rfl
    rw [Tapped.appends, written_converse, List.flatMap_append, List.flatMap_singleton,
      Tapped.appendBodies, hdecode]
    simp only [hother, List.append_nil]
    exact hnet
  exact hkeeps.perform rfl

theorem appends_close (s : Client (Tapped ν)) : s.close.net.appends = s.net.appends := by
  have hother : ∀ parent d, StoreCall.close ≠ .append parent d := nofun
  exact appends_perform hother s

theorem appends_connect (s : Client (Tapped ν)) : s.connect.2.net.appends = s.net.appends := by
  have hother : ∀ parent d, StoreCall.connect ≠ .append parent d := nofun
  exact appends_perform hother s

/-! ## What is written -/

/-- A call writes frames of its own type, behind what was written before. -/
theorem written_perform (call : StoreCall) (s : Client (Tapped ν)) :
    ∃ frames, (call.perform s).2.net.written = s.net.written ++ frames ∧
      ∀ octets ∈ frames, ∃ type id body, call.type? = some type ∧
        octets = Frame.encode ⟨type.code, 0, id, body⟩ := by
  let Written (t : Tapped ν) : Prop := ∃ frames, t.written = s.net.written ++ frames ∧
    ∀ octets ∈ frames, ∃ type id body, call.type? = some type ∧
      octets = Frame.encode ⟨type.code, 0, id, body⟩
  have hkeeps : Keeps (call.type? = some ·) Written := by
    refine ⟨fun _ _ h => h, fun _ _ h => h, ?_⟩
    rintro c type id body t htype - ⟨frames, hframes, htypes⟩
    refine ⟨frames ++ [Frame.encode ⟨type.code, 0, id, body⟩], ?_, ?_⟩
    · rw [written_converse, hframes, List.append_assoc]
    · intro octets hoctets
      rcases List.mem_append.1 hoctets with hearlier | hnew
      · exact htypes octets hearlier
      · exact ⟨type, id, body, htype, List.mem_singleton.1 hnew⟩
  exact hkeeps.perform ⟨[], (List.append_nil _).symm, by simp⟩

end Client

end SessionRecorder

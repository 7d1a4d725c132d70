import SessionRecorder.Proofs.StoreUse
import SessionRecorder.Proofs.TappedClient

/-!
Which contexts a peer makes for a session. To set contexts up two of them are asked for, one after
the other, and an attempt that is repeated asks for both anew. So a context that was granted before
the second one was refused is left behind (`refusals_leave_orphans`); an attempt leaves no more than
this one, and from a session that has contexts no more are asked for. Main statement:
`created_contexts_accounted`.
-/

namespace SessionRecorder

open Bytes Wire AnsweringPeer

/-- The context that an answer tells of, if any. -/
def contextsOf : Except StoreError StoreAnswer → List UInt64
  | .ok (.context head) => [head.context]
  | _ => []

namespace AnsweringPeer

namespace Conduct

/-- The context that the peer makes for a request, as its answer tells; none if the request gets
lost or the answer is an error. -/
def granted (k : Conduct) : Option UInt64 :=
  match k.lost, Frame.decode k.sent with
  | none, .ok f =>
    if f.messageType = MessageType.error.code then none else some (.ofNat (fieldLE 0 8 f.payload))
  | _, _ => none

/-- A request for a context gets lost, or its answer comes: an error, or the head of a context. -/
def Decided (k : Conduct) : Prop :=
  k.lost.isSome ∨
    ∃ f, k.Brings f ∧ (f.messageType ≠ MessageType.error.code → 20 ≤ f.payload.length)

variable {k : Conduct}

theorem granted_of_brings {f : Frame} (h : k.Brings f) :
    k.granted = if f.messageType = MessageType.error.code then none
      else some (.ofNat (fieldLE 0 8 f.payload)) := by
  have hlength : f.payload.length < 2 ^ 32 := Nat.lt_of_le_of_lt h.size (by decide)
  have hdecode := Frame.decode_append hlength []
  rw [List.append_nil, ← h.sent] at hdecode
  simp only [granted, h.lost, hdecode]

/-- Where a request for a context is decided, the client is told what the peer has made. -/
theorem Decided.judge (h : k.Decided) (base : UInt64) (limit : Duration) :
    contextsOf ((StoreCall.create base).judge .createContext limit k.fate) = k.granted.toList := by
  rcases h with hlost | ⟨f, hbrings, hwhole⟩
  · obtain ⟨loss, hloss⟩ := Option.isSome_iff_exists.1 hlost
    have hgranted : k.granted = none := by simp only [granted, hloss]
    have hfate : k.fate = loss.ended := by simp only [fate, hloss]
    rw [hfate, hgranted]
    cases loss <;> rfl
  · rw [fate_of_brings hbrings, granted_of_brings hbrings]
    unfold StoreCall.judge
    by_cases herror : f.messageType = MessageType.error.code
    · simp only [herror, ↓reduceIte]
      rfl
    · have henough : ¬ f.payload.length < (StoreCall.create base).need :=
        Nat.not_lt.2 (hwhole herror)
      simp only [herror, henough, ↓reduceIte]
      rfl

end Conduct

end AnsweringPeer

/-! ## Requests for contexts -/

namespace Tapped

variable {ν : Type} {t u : Tapped ν}

/-- Whether octets that were written ask for a new context. -/
def asksContext (octets : Bytes) : Bool :=
  let code := UInt16.ofNat (fieldLE 4 2 octets)
  code = MessageType.createContext.code || code = MessageType.forkContext.code

theorem asksContext_encode {call : StoreCall} {type : MessageType} (h : call.type? = some type)
    (id : UInt64) (body : Bytes) :
    asksContext (Frame.encode ⟨type.code, 0, id, body⟩) = call.isCreation := by
  let f : Frame := ⟨type.code, 0, id, body⟩
  have hheader := Frame.header_of_prefix (List.prefix_refl f.encode) (by simp)
  have hcode : UInt16.ofNat (fieldLE 4 2 f.encode) = type.code :=
    (congrArg Header.messageType hheader).symm
  unfold asksContext
  simp only [f] at hcode
  rw [hcode]
  cases call <;> cases h <;> rfl

/-- The numbers of the written requests that ask for a new context. -/
def asked (t : Tapped ν) : List Nat :=
  (t.written.zipIdx 1).filterMap fun (octets, n) => if asksContext octets then some n else none

theorem asked_append {frames : List Bytes} (h : u.written = t.written ++ frames) :
    u.asked = t.asked ++ (frames.zipIdx (1 + t.written.length)).filterMap fun (octets, n) =>
      if asksContext octets then some n else none := by
  rw [asked, h, List.zipIdx_append, List.filterMap_append]
  rfl

variable {plan : Plan}

/-- The contexts that the peer has made, oldest first. -/
def created (t : Tapped (AnsweringPeer plan)) : List UInt64 :=
  t.asked.filterMap fun n => (plan.conduct n).granted

/-- Every request for a context that was written is decided. -/
def Decided (t : Tapped (AnsweringPeer plan)) : Prop := ∀ n ∈ t.asked, (plan.conduct n).Decided

end Tapped

namespace AnsweringPeer

variable {plan : Plan}

theorem requests_read (c count : Nat) (p : AnsweringPeer plan) :
    (Network.read c count p).2.requests = p.requests := by
  change (p.read c count).2.requests = p.requests
  unfold AnsweringPeer.read
  simp only
  split <;> rfl

theorem requests_converse (c : Nat) (frame : Bytes) (p : AnsweringPeer plan) :
    (Client.converse (ν := AnsweringPeer plan) c frame p).2.requests = p.requests + 1 := by
  refine Client.converse_keeps (P := fun q : AnsweringPeer plan => q.requests = p.requests + 1)
    (fun c count q h => (requests_read c count q).trans h) c frame ?_
  change (p.write c).2.requests = p.requests + 1
  unfold AnsweringPeer.write
  simp only
  split <;> rfl

end AnsweringPeer

namespace Client

variable {plan : Plan} {s t : Client (Tapped (AnsweringPeer plan))}

/-- Nothing is left to read on the connection that the client holds, and all requests are noted. -/
structure Sound (s : Client (Tapped (AnsweringPeer plan))) : Prop where
  settled : s.untapped.Settled
  noted : s.net.net.requests = s.net.written.length

theorem Sound.perform (hplan : plan.Framed) (call : StoreCall) (h : s.Sound) :
    (call.perform s).2.Sound := by
  refine ⟨?_, ?_⟩
  · have hplain := congrArg Prod.snd (perform_untapped call s)
    have hended := perform_attributed hplan call h.settled
    rw [← hplain] at hended
    exact hended.settled
  · have hkeeps : Keeps (call.type? = some ·)
        fun t : Tapped (AnsweringPeer plan) => t.net.requests = t.written.length := by
      refine ⟨fun _ _ h => h, ?_, ?_⟩
      · intro address t ht
        change t.net.dial.2.requests = t.written.length
        unfold AnsweringPeer.dial
        simp only
        split <;> exact ht
      · intro c type id body t _ _ ht
        have hrequests := requests_converse c (Frame.encode ⟨type.code, 0, id, body⟩) t.net
        rw [← bare_converse] at hrequests
        rw [written_converse, List.length_append, ← ht]
        exact hrequests
    exact hkeeps.perform h.noted

theorem asked_grows (call : StoreCall) (s : Client (Tapped (AnsweringPeer plan))) :
    s.net.asked <+: (call.perform s).2.net.asked := by
  obtain ⟨frames, hwritten, _⟩ := written_perform call s
  rw [Tapped.asked_append hwritten]
  exact List.prefix_append _ _

theorem asked_of_not_creation {call : StoreCall} (h : call.isCreation = false)
    (s : Client (Tapped (AnsweringPeer plan))) : (call.perform s).2.net.asked = s.net.asked := by
  obtain ⟨frames, hwritten, htypes⟩ := written_perform call s
  have hnone : (frames.zipIdx (1 + s.net.written.length)).filterMap (fun (octets, n) =>
      if Tapped.asksContext octets then some n else none) = [] := by
    refine List.filterMap_eq_nil_iff.2 ?_
    rintro ⟨octets, n⟩ hmem
    obtain ⟨type, id, body, htype, rfl⟩ := htypes octets (List.fst_mem_of_mem_zipIdx hmem)
    simp only [Tapped.asksContext_encode htype, h, Bool.false_eq_true, ↓reduceIte]
  rw [Tapped.asked_append hwritten, hnone, List.append_nil]

theorem unsent_error {call : StoreCall} {c : Client (AnsweringPeer plan)}
    {result : Except StoreError StoreAnswer} (h : call.Unsent c result) (hcall : call ≠ .close) :
    ∃ e, result = .error e := by
  cases h with
  | closed => exact absurd rfl hcall
  | _ => exact ⟨_, rfl⟩

/-- A context is asked for by one request, which ends by what happens to it, or not at all. -/
theorem create_asks (hplan : plan.Framed) (hs : s.Sound) (base : UInt64) :
    let r := (StoreCall.create base).perform s
    ((∃ e, r.1 = .error e) ∧ r.2.net.asked = s.net.asked) ∨
      r.1 = (StoreCall.create base).judge .createContext s.config.requestTimeout
        (plan.conduct (s.net.net.requests + 1)).fate ∧
      r.2.net.asked = s.net.asked ++ [s.net.net.requests + 1] := by
  intro r
  have hplain := perform_untapped (.create base) s
  have hended := perform_attributed hplan (.create base) hs.settled
  have hnoted := (hs.perform hplan (.create base)).noted
  obtain ⟨frames, hwritten, htypes⟩ := written_perform (.create base) s
  have hasked := Tapped.asked_append hwritten
  rw [← hplain] at hended
  rw [hwritten, List.length_append, ← hs.noted] at hnoted
  replace hnoted : r.2.net.net.requests = s.net.net.requests + frames.length := hnoted
  rcases hended.accounted with hsilent | hattributed
  · -- Without a request there are no new frames.
    have hrequests : r.2.net.net.requests = s.net.net.requests := hsilent.requests
    obtain rfl : frames = [] := List.length_eq_zero_iff.1 (by omega)
    rw [List.zipIdx_nil, List.filterMap_nil, List.append_nil] at hasked
    exact .inl ⟨unsent_error hsilent.unsent nofun, hasked⟩
  · have hrequests : r.2.net.net.requests = s.net.net.requests + 1 := hattributed.requests
    obtain ⟨octets, rfl⟩ := List.length_eq_one_iff.1 (show frames.length = 1 by omega)
    obtain ⟨type, id, body, htype, rfl⟩ := htypes _ (List.mem_singleton_self _)
    have hasks : Tapped.asksContext (Frame.encode ⟨type.code, 0, id, body⟩) = true :=
      Tapped.asksContext_encode htype id body
    rw [List.zipIdx_singleton, List.filterMap_cons, List.filterMap_nil, ← hs.noted,
      Nat.add_comm 1] at hasked
    simp only [hasks, ↓reduceIte] at hasked
    obtain ⟨sent, hsent, hresult⟩ := hattributed.result
    cases hsent
    exact .inr ⟨hresult, hasked⟩

/-- Where the requests for contexts are decided, a client is told each context that is made. -/
theorem created_create (hplan : plan.Framed) (hs : s.Sound) (base : UInt64)
    (hdecided : (ContextStore.create base s).2.net.Decided) :
    (ContextStore.create base s).2.net.created =
      s.net.created ++ contextsOf ((ContextStore.create base s).1.map .context) := by
  have hasks := create_asks hplan hs base
  let r := (StoreCall.create base).perform s
  change r.2.net.Decided at hdecided
  change r.2.net.created = s.net.created ++ contextsOf r.1
  have hcreated {numbers : List Nat} (h : r.2.net.asked = s.net.asked ++ numbers) :
      r.2.net.created = s.net.created ++ numbers.filterMap fun n => (plan.conduct n).granted := by
    rw [Tapped.created, h, List.filterMap_append]
    rfl
  rcases hasks with ⟨⟨e, herror⟩, hasked⟩ | ⟨hjudged, hasked⟩
  · rw [hcreated (hasked.trans (List.append_nil _).symm), herror]
    rfl
  · have hlast : s.net.net.requests + 1 ∈ r.2.net.asked := by
      rw [hasked]
      exact List.mem_append_right _ (List.mem_singleton_self _)
    rw [hcreated hasked, hjudged, (hdecided _ hlast).judge]
    cases hgranted : (plan.conduct (s.net.net.requests + 1)).granted <;>
      simp only [List.filterMap_cons, hgranted, List.filterMap_nil, Option.toList]

end Client

/-! ## States that calls reach -/

section

variable {plan : Plan} {kind : StoreCall → Prop} {s t : Client (Tapped (AnsweringPeer plan))}

theorem Reaches.sound (hplan : plan.Framed) (h : Reaches kind s t) (hs : s.Sound) : t.Sound :=
  h.keeps (fun call _ _ hsound => hsound.perform hplan call) hs

theorem Reaches.decided (h : Reaches kind s t) (ht : t.net.Decided) : s.net.Decided := by
  have hfront : s.net.asked <+: t.net.asked :=
    h.keeps (P := fun u => s.net.asked <+: u.net.asked)
      (fun call u _ hu => hu.trans (Client.asked_grows call u)) (List.prefix_refl _)
  exact fun n hn => ht n (hfront.subset hn)

theorem Reaches.created_eq (h : Reaches (·.isCreation = false) s t) :
    t.net.created = s.net.created := by
  have hasked : t.net.asked = s.net.asked :=
    h.keeps (P := fun u => u.net.asked = s.net.asked)
      (fun call u hcall hu => (Client.asked_of_not_creation hcall u).trans hu) rfl
  rw [Tapped.created, Tapped.created, hasked]

/-- What is created where new contexts are got: both, or at most the first. -/
theorem Resolver.created_createNew (hplan : plan.Framed) (hs : s.Sound) (l : Lineage)
    (hdecided : (createNew l s).2.2.net.Decided) :
    let r := createNew l s
    (∃ contexts, r.1 = .ok contexts ∧
      r.2.2.net.created = s.net.created ++ [contexts.turns, contexts.events]) ∨
    (∃ e left, r.1 = .error e ∧ r.2.2.net.created = s.net.created ++ left ∧ left.length ≤ 1) := by
  have hcreate (u : Client (Tapped (AnsweringPeer plan))) :
      Reaches (fun _ => True) u (ContextStore.create 0 u).2 :=
    @Reaches.single _ _ (fun _ => True) (.create 0) trivial u
  have hfirst := Client.created_create hplan hs 0
  have hnext := (hcreate s).sound hplan hs
  unfold createNew at hdecided ⊢
  rcases h : ContextStore.create 0 s with ⟨e | turns, next⟩ <;>
    rw [h] at hfirst hnext <;>
    simp only [h] at hdecided ⊢
  · exact .inr ⟨e, [], rfl, hfirst hdecided, Nat.zero_le 1⟩
  · have hsecond := Client.created_create hplan hnext 0
    have hlater := (hcreate next).decided
    rcases h' : ContextStore.create 0 next with ⟨e | events, last⟩ <;>
      rw [h'] at hsecond hlater <;>
      simp only [h'] at hdecided ⊢
    · refine .inr ⟨e, [turns.context], rfl, ?_, Nat.le_refl 1⟩
      rw [hsecond hdecided, hfirst (hlater hdecided), List.append_assoc]
      rfl
    · refine .inl ⟨_, rfl, ?_⟩
      rw [hsecond hdecided, hfirst (hlater hdecided), List.append_assoc]
      rfl

end

/-! ## The contexts of a session, and those left behind -/

/-- The time of the attempt to set contexts up that an action makes where there are none. -/
def Action.attempt? {κ : Type} : Action κ → Option Int64
  | .setUp time => some time
  | .event c => some c.readings.setUp
  | .cleanUp _ | .outside _ => none

namespace Router

/-- An attempt to set contexts up, by the state that it starts from. -/
structure Attempt (σ ρ : Type) where
  router : Router σ ρ
  time : Int64

section

variable {σ ρ κ : Type} [ContextStore σ] [RegistryPublisher ρ]

/-- A session that has contexts is set up. -/
theorem setUp_of_some {r : Router σ ρ} {contexts : SessionContexts}
    (h : r.contexts = some contexts) (time : Int64) : r.setUp time = (.ok (), r) := by
  simp only [setUp, h, Option.isSome_some, ↓reduceIte]

/-- The state behind an attempt. -/
def Attempt.after (a : Attempt σ ρ) : Router σ ρ := (a.router.setUp a.time).2

def Attempt.fails (a : Attempt σ ρ) : Bool := !(a.router.setUp a.time).1.isOk

/-- The attempt that an action makes, if it fails. -/
def failedAttempt (action : Action κ) (r : Router σ ρ) : List (Attempt σ ρ) :=
  (action.attempt?.toList.map fun time => ⟨r, time⟩).filter Attempt.fails

/-- The attempts of a run that fail, in order. -/
def failedAttempts (change : κ → σ → σ) : List (Action κ) → Router σ ρ → List (Attempt σ ρ)
  | [], _ => []
  | action :: rest, r =>
    r.failedAttempt action ++ failedAttempts change rest (r.act change action)

end

variable {ρ : Type}

/-- The contexts of the session. -/
def ownContexts {σ : Type} (r : Router σ ρ) : List UInt64 :=
  r.contexts.toList.flatMap fun contexts => [contexts.turns, contexts.events]

theorem ownContexts_of_none {σ : Type} {r : Router σ ρ} (h : r.contexts = none) :
    r.ownContexts = [] := by
  rw [ownContexts, h]
  rfl

/-- A router without contexts, since a state of its store in which the peer has made one more at
most. -/
structure Contextless {plan : Plan} (c : Client (Tapped (AnsweringPeer plan)))
    (r : Router (Client (Tapped (AnsweringPeer plan))) ρ) : Prop where
  sound : r.outbox.store.Sound
  resolver : r.resolver = .createNew
  contexts : r.contexts = none
  created : r.outbox.store.net.Decided → c.net.Decided ∧
    ∃ left, r.outbox.store.net.created = c.net.created ++ left ∧ left.length ≤ 1

/-- Work that makes no contexts, in front. -/
theorem Contextless.of_calls {plan : Plan} {r q s : Router (Client (Tapped (AnsweringPeer plan))) ρ}
    (h : Contextless q.outbox.store s) (hcalls : r.Calls (·.isCreation = false) q) :
    Contextless r.outbox.store s := by
  refine ⟨h.sound, h.resolver, h.contexts, fun hdecided => ?_⟩
  obtain ⟨hbefore, left, hcreated, hleft⟩ := h.created hdecided
  exact ⟨hcalls.store.decided hbefore, left, hcalls.store.created_eq ▸ hcreated, hleft⟩

variable [RegistryPublisher ρ]

/-- The contexts that the peer makes in an attempt. -/
def Attempt.made {plan : Plan} (a : Attempt (Client (Tapped (AnsweringPeer plan))) ρ) :
    List UInt64 :=
  a.after.outbox.store.net.created.drop a.router.outbox.store.net.created.length

/-- The peer has made one more context at most behind an attempt. -/
structure Attempt.LeavesOne {plan : Plan}
    (a : Attempt (Client (Tapped (AnsweringPeer plan))) ρ) : Prop where
  made : a.after.outbox.store.net.created = a.router.outbox.store.net.created ++ a.made
  single : a.made.length ≤ 1

/-- The contexts that the peer has made are those that the failed attempts have left, one at most
by each, and behind them those of the session. -/
structure Accounted {plan : Plan}
    (failed : List (Attempt (Client (Tapped (AnsweringPeer plan))) ρ))
    (r : Router (Client (Tapped (AnsweringPeer plan))) ρ) : Prop where
  sound : r.outbox.store.Sound
  resolver : r.resolver = .createNew
  created : r.outbox.store.net.Decided →
    r.outbox.store.net.created = failed.flatMap Attempt.made ++ r.ownContexts
  single : r.outbox.store.net.Decided → ∀ a ∈ failed, a.LeavesOne

variable {plan : Plan} {failed : List (Attempt (Client (Tapped (AnsweringPeer plan))) ρ)}
  {r s : Router (Client (Tapped (AnsweringPeer plan))) ρ}

/-- Work that makes no contexts. -/
theorem Accounted.calls (hplan : plan.Framed) (h : r.Accounted failed)
    (hcalls : r.Calls (·.isCreation = false) s) : s.Accounted failed := by
  refine ⟨hcalls.store.sound hplan h.sound, hcalls.alike.resolver.trans h.resolver, ?_, ?_⟩ <;>
    intro hdecided
  · rw [hcalls.store.created_eq, h.created (hcalls.store.decided hdecided), ownContexts,
      ownContexts, hcalls.contexts]
  · exact h.single (hcalls.store.decided hdecided)

/-- What an attempt leaves stands behind what those before it have left. -/
theorem Accounted.append (h : r.Accounted failed) (hnone : r.contexts = none) {time : Int64}
    (hcontextless : Contextless r.outbox.store (r.setUp time).2) :
    (r.setUp time).2.Accounted (failed ++ [⟨r, time⟩]) := by
  have hleaves (hdecided : (r.setUp time).2.outbox.store.net.Decided) :
      Attempt.LeavesOne ⟨r, time⟩ := by
    obtain ⟨_, left, hcreated, hleft⟩ := hcontextless.created hdecided
    have hmade : Attempt.made ⟨r, time⟩ = left := by
      rw [Attempt.made, Attempt.after, hcreated, List.drop_left]
    exact ⟨hmade ▸ hcreated, hmade ▸ hleft⟩
  refine ⟨hcontextless.sound, hcontextless.resolver, ?_, ?_⟩ <;> intro hdecided <;>
    have hbefore := (hcontextless.created hdecided).1
  · rw [List.flatMap_append, List.flatMap_singleton, ownContexts_of_none hcontextless.contexts,
      List.append_nil]
    have hcreated := h.created hbefore
    rw [ownContexts_of_none hnone, List.append_nil] at hcreated
    rw [← hcreated]
    exact (hleaves hdecided).made
  · intro a ha
    rcases List.mem_append.1 ha with ha | ha
    · exact h.single hbefore a ha
    · obtain rfl := List.mem_singleton.1 ha
      exact hleaves hdecided

/-- Where a session gets its contexts, they are its own; otherwise one may be left. -/
theorem Accounted.resolve (hplan : plan.Framed) (h : r.Accounted failed)
    (hnone : r.contexts = none) :
    (∀ e s, r.resolve = (.error e, s) → Contextless r.outbox.store s) ∧
      ∀ contexts s, r.resolve = (.ok contexts, s) →
        Accounted failed { s with contexts := some contexts } := by
  have hstore : r.resolve.2.outbox.store = (Resolver.createNew r.lineage r.outbox.store).2.2 :=
    congrArg (fun resolver : Resolver _ => (resolver r.lineage r.outbox.store).2.2) h.resolver
  have hresult : r.resolve.1 = (Resolver.createNew r.lineage r.outbox.store).1 :=
    congrArg (fun resolver : Resolver _ => (resolver r.lineage r.outbox.store).1) h.resolver
  have hcalls : r.Calls (·.isCreation = true) r.resolve.2 :=
    calls_resolve r (h.resolver ▸ Resolver.createNew_creates r.lineage r.outbox.store)
  have hsound := hcalls.store.sound hplan h.sound
  have hcases := Resolver.created_createNew hplan h.sound r.lineage
  simp only [← hstore, ← hresult] at hcases
  refine ⟨?_, ?_⟩ <;> intro given s hresolve <;> rw [hresolve] at hcalls hsound hcases
  · refine ⟨hsound, hcalls.alike.resolver.trans h.resolver, hcalls.contexts.trans hnone, ?_⟩
    intro hdecided
    rcases hcases hdecided with ⟨_, hok, _⟩ | ⟨_, left, _, hleft⟩
    · cases hok
    · exact ⟨hcalls.store.decided hdecided, left, hleft⟩
  · refine ⟨hsound, hcalls.alike.resolver.trans h.resolver, ?_, ?_⟩ <;> intro hdecided <;>
      have hbefore := hcalls.store.decided hdecided
    · rcases hcases hdecided with ⟨_, hok, hcreated⟩ | ⟨_, _, herror, _⟩
      · cases hok
        rw [h.created hbefore, ownContexts_of_none hnone, List.append_nil] at hcreated
        exact hcreated
      · cases herror
    · exact h.single hbefore

/-- Work that makes no contexts leaves none. -/
theorem Accounted.contextless_of_calls (hplan : plan.Framed) (h : r.Accounted failed)
    (hcalls : r.Calls (·.isCreation = false) s) (hnone : s.contexts = none) :
    Contextless r.outbox.store s := by
  have hlater := h.calls hplan hcalls
  refine ⟨hlater.sound, hlater.resolver, hnone, fun hdecided => ?_⟩
  refine ⟨hcalls.store.decided hdecided, [], ?_, Nat.zero_le 1⟩
  rw [hcalls.store.created_eq, List.append_nil]

/-- The bundle is published without the store. -/
theorem Accounted.publishBundle (h : r.Accounted failed) :
    r.publishBundle.Accounted failed ∧ r.publishBundle.outbox.store = r.outbox.store := by
  obtain ⟨publisher, published, journal, hpublish⟩ := r.publishBundle_eq
  rw [hpublish]
  exact ⟨⟨h.sound, h.resolver, h.created, h.single⟩, rfl⟩

/-- An attempt that fails leaves one context at most, and one that succeeds none. -/
theorem Accounted.setUp (hplan : plan.Framed) (time : Int64) (h : r.Accounted failed) :
    (r.setUp time).2.Accounted (failed ++ [⟨r, time⟩].filter Attempt.fails) := by
  have hkept (hok : (r.setUp time).1 = .ok ()) (hlater : (r.setUp time).2.Accounted failed) :
      (r.setUp time).2.Accounted (failed ++ [⟨r, time⟩].filter Attempt.fails) := by
    rw [List.filter_cons_of_neg (by rw [Attempt.fails, hok]; decide), List.filter_nil,
      List.append_nil]
    exact hlater
  cases hcontexts : r.contexts with
  | some contexts =>
    have hnothing := setUp_of_some hcontexts time
    exact hkept (congrArg Prod.fst hnothing) (congrArg Prod.snd hnothing ▸ h)
  | none =>
    have hleft {e : RouterError} (herror : (r.setUp time).1 = .error e)
        (hcontextless : Contextless r.outbox.store (r.setUp time).2) :
        (r.setUp time).2.Accounted (failed ++ [⟨r, time⟩].filter Attempt.fails) := by
      rw [List.filter_cons_of_pos (by rw [Attempt.fails, herror]; rfl), List.filter_nil]
      exact h.append hcontexts hcontextless
    have hattempt : Audited.Attempt time ⟨r, {}⟩ (r.setUp time).1 (Audited.setUp time ⟨r, {}⟩) :=
      Audited.attempt time hcontexts
    have hrouter : (Audited.setUp time ⟨r, {}⟩).router = (r.setUp time).2 := rfl
    rw [← hrouter] at hkept hleft ⊢
    generalize (r.setUp time).1 = result, Audited.setUp time ⟨r, {}⟩ = a
      at hattempt hkept hleft ⊢
    have hfirst : r.Calls (·.isCreation = false) r.connectFirst.2 := calls_connectFirst (by rfl) r
    have hnone := (Audited.contexts_connectFirst r).trans hcontexts
    cases hattempt with
    | unconnected hconnect =>
      rw [hconnect] at hfirst hnone
      exact hleft rfl (h.contextless_of_calls hplan hfirst hnone)
    | @unresolved e q s hconnect hresolve =>
      rw [hconnect] at hfirst hnone
      obtain ⟨hpublished, hstore⟩ := (h.calls hplan hfirst).publishBundle
      have hcontextless := (hpublished.resolve hplan
        ((Audited.contexts_publishBundle _).trans hnone)).1 _ _ hresolve
      rw [hstore] at hcontextless
      exact hleft rfl (hcontextless.of_calls hfirst)
    | @opened contexts q s hconnect hresolve =>
      rw [hconnect] at hfirst hnone
      have hpublished := (h.calls hplan hfirst).publishBundle.1
      have hgiven := (hpublished.resolve hplan
        ((Audited.contexts_publishBundle _).trans hnone)).2 _ _ hresolve
      exact hkept rfl (hgiven.calls hplan (calls_openContexts (fun _ => by rfl) contexts time s))

theorem Accounted.handle (hplan : plan.Framed) (c : Call) (h : r.Accounted failed) :
    (r.handle c).Accounted (failed ++ [⟨r, c.readings.setUp⟩].filter Attempt.fails) := by
  have hsetUp := h.setUp hplan c.readings.setUp
  have hprepared : (r.prepare c.readings.setUp).2.Accounted
      (failed ++ [⟨r, c.readings.setUp⟩].filter Attempt.fails) := by
    cases hcontexts : r.contexts with
    | none =>
      simp only [prepare, hcontexts, Option.isNone_none, ↓reduceIte]
      exact hsetUp
    | some contexts =>
      -- With contexts there is no attempt, and the store is connected at most.
      rw [setUp_of_some hcontexts] at hsetUp
      simp only [prepare, hcontexts, Option.isNone_some, Bool.false_eq_true, ↓reduceIte]
      split
      · exact hsetUp
      · exact hsetUp.calls hplan (calls_connect (by rfl) _ r)
  exact hprepared.calls hplan (calls_handle_of_prepared (fun _ => by rfl) c r)

/-- Each action adds the attempt that fails in it. -/
theorem Accounted.act (hplan : plan.Framed)
    (change : Empty → Client (Tapped (AnsweringPeer plan)) → Client (Tapped (AnsweringPeer plan)))
    (action : Action Empty) (h : r.Accounted failed) :
    (r.act change action).Accounted (failed ++ r.failedAttempt action) := by
  cases action with
  | setUp time => exact h.setUp hplan time
  | event c => exact h.handle hplan c
  | cleanUp time =>
    rw [show r.failedAttempt (.cleanUp time : Action Empty) = [] from rfl, List.append_nil]
    exact h.calls hplan (calls_cleanUp (fun _ => by rfl) (by rfl) time r)
  | outside k => exact k.elim

/-- A run adds the attempts that fail in it. -/
theorem Accounted.run (hplan : plan.Framed)
    (change : Empty → Client (Tapped (AnsweringPeer plan)) → Client (Tapped (AnsweringPeer plan)))
    (actions : List (Action Empty)) (h : r.Accounted failed) :
    (r.run change actions).Accounted (failed ++ r.failedAttempts change actions) := by
  induction actions generalizing r failed with
  | nil =>
    rw [failedAttempts, List.append_nil]
    exact h
  | cons action rest ih =>
    have hrest := ih (h.act hplan change action)
    rw [List.append_assoc] at hrest
    exact hrest

/-- A session that has contexts makes no more of them, and keeps those. -/
theorem created_run
    (change : Empty → Client (Tapped (AnsweringPeer plan)) → Client (Tapped (AnsweringPeer plan)))
    (actions : List (Action Empty)) (h : r.contexts.isSome) :
    (r.run change actions).outbox.store.net.created = r.outbox.store.net.created ∧
      (r.run change actions).contexts = r.contexts := by
  induction actions generalizing r with
  | nil => exact ⟨rfl, rfl⟩
  | cons action rest ih =>
    rcases calls_act change action h with hcalls | ⟨k, _⟩
    · obtain ⟨hcreated, hcontexts⟩ := ih (hcalls.contexts ▸ h)
      exact ⟨hcreated.trans hcalls.store.created_eq, hcontexts.trans hcalls.contexts⟩
    · exact k.elim

/-- The peer has made what each of the failed attempts has left, one context at most, and behind
that the contexts of the session; it makes no more of them once the session has its own. -/
structure LeavesOneEach {plan : Plan}
    (change : Empty → Client (Tapped (AnsweringPeer plan)) → Client (Tapped (AnsweringPeer plan)))
    (failed : List (Attempt (Client (Tapped (AnsweringPeer plan))) ρ))
    (r : Router (Client (Tapped (AnsweringPeer plan))) ρ) : Prop where
  created : r.outbox.store.net.created = failed.flatMap Attempt.made ++ r.ownContexts
  single : ∀ a ∈ failed, a.LeavesOne
  later : r.contexts.isSome → ∀ actions : List (Action Empty),
    (r.run change actions).outbox.store.net.created = r.outbox.store.net.created ∧
      (r.run change actions).contexts = r.contexts

end Router

/-- Where a peer decides each request for a context that reaches it, an attempt to set a session up
that fails leaves one context at most, and after one that succeeds no context is made. -/
theorem created_contexts_accounted {ρ : Type} [RegistryPublisher ρ] (plan : Plan)
    (hplan : plan.Framed) (client : ClientConfig) (l : Lineage) (config : RouterConfig)
    (identity : Identity) (known : List String) (publisher : Option ρ)
    (change : Empty → Client (Tapped (AnsweringPeer plan)) → Client (Tapped (AnsweringPeer plan)))
    (actions : List (Action Empty)) :
    let start : Router (Client (Tapped (AnsweringPeer plan))) ρ :=
      .create { config := client, net := ⟨{}, []⟩ } l config identity known .createNew publisher
    let r := start.run change actions
    r.outbox.store.net.Decided → r.LeavesOneEach change (start.failedAttempts change actions) := by
  intro start r hdecided
  have hstart : start.Accounted [] :=
    ⟨⟨Client.settled_of_none rfl, rfl⟩, rfl, fun _ => rfl, fun _ a ha => by cases ha⟩
  have hended := hstart.run hplan change actions
  rw [List.nil_append] at hended
  exact ⟨hended.created hdecided, hended.single hdecided,
    fun h later => Router.created_run change later h⟩

namespace AnsweringPeer

namespace Sample

open MessageType

/-- The answer to a request in a plan where the third and the fifth are refused. The other answers
have their own numbers for a context. -/
def granting (n : Nat) : Frame :=
  if n = 3 ∨ n = 5 then reply error n (ofNatLE 8 500)
  else reply createContext n (ofNatLE 20 n)

/-- Each of two attempts gets one context, and is refused the other. -/
def refusing : Plan where
  conduct n := { sent := (granting n).encode, come := fun _ => 36 }

def session : Router (Client (Tapped (AnsweringPeer refusing))) CountingPublisher :=
  .create { config := Client.Sample.config, net := ⟨{}, []⟩ } SessionRecorder.Sample.lineage
    SessionRecorder.Sample.config SessionRecorder.Sample.identity [] .createNew none

end Sample

theorem length_granting (n : Nat) : (Sample.granting n).payload.length ≤ 20 := by
  unfold Sample.granting
  split
  · exact Nat.le_of_ble_eq_true rfl
  · exact Nat.le_of_ble_eq_true rfl

theorem refusing_framed : Sample.refusing.Framed := fun n =>
  ⟨_, Nat.lt_of_le_of_lt (length_granting n) (by decide), List.prefix_refl _⟩

theorem refusing_brings (n : Nat) : (Sample.refusing.conduct n).Brings (Sample.granting n) :=
  have hcome : 20 ≤ (Sample.refusing.conduct n).come 1 := Nat.le_of_ble_eq_true rfl
  ⟨rfl, rfl, Nat.le_of_ble_eq_true rfl, Nat.le_trans (length_granting n) hcome,
    Nat.le_trans (length_granting n) (by decide)⟩

theorem refusing_decided (n : Nat) : (Sample.refusing.conduct n).Decided := by
  refine .inr ⟨_, refusing_brings n, ?_⟩
  unfold Sample.granting
  split
  · exact fun h => absurd rfl h
  · exact fun _ => Nat.le_of_ble_eq_true rfl

end AnsweringPeer

/-- Two attempts are refused their second context, and the third gets both. -/
theorem contexts_after_refusals :
    let start := AnsweringPeer.Sample.session
    let actions : List (Action Empty) := [.setUp 1, .setUp 2, .setUp 3]
    let r := start.run (fun k => k.elim) actions
    AnsweringPeer.Sample.refusing.Framed ∧ r.outbox.store.net.Decided ∧
      (start.failedAttempts (fun k => k.elim) actions).map (·.made) = [[2], [4]] ∧
      r.ownContexts = [6, 7] ∧
      r.LeavesOneEach (fun k => k.elim) (start.failedAttempts (fun k => k.elim) actions) :=
  ⟨AnsweringPeer.refusing_framed, fun n _ => AnsweringPeer.refusing_decided n,
    by decide +kernel, by decide +kernel,
    created_contexts_accounted AnsweringPeer.Sample.refusing AnsweringPeer.refusing_framed
      Client.Sample.config Sample.lineage Sample.config Sample.identity []
      (none : Option CountingPublisher) (fun k => k.elim) [.setUp 1, .setUp 2, .setUp 3]
      fun n _ => AnsweringPeer.refusing_decided n⟩

/-- Contexts that were granted before a refusal are left behind: two before the session has any,
and both still there when it has its own. -/
theorem refusals_leave_orphans :
    let start := AnsweringPeer.Sample.session
    let before := start.run (fun k : Empty => k.elim) [.setUp 1, .setUp 2]
    let r := start.run (fun k : Empty => k.elim) [.setUp 1, .setUp 2, .setUp 3]
    (∀ n, ∃ f, (AnsweringPeer.Sample.refusing.conduct n).Brings f) ∧
      before.contexts = none ∧ before.outbox.store.net.created = [2, 4] ∧
      r.contexts = some ⟨6, 7, none, none⟩ ∧ r.outbox.store.net.created = [2, 4, 6, 7] :=
  ⟨fun n => ⟨_, AnsweringPeer.refusing_brings n⟩, by decide +kernel⟩

end SessionRecorder

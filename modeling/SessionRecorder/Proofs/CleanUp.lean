import SessionRecorder.Proofs.StoreUse
import SessionRecorder.Proofs.Work
import SessionRecorder.Router.Decisions
import SessionRecorder.Store.Memory

/-!
The end of a session's recording over a store in memory. The records of the turn in progress go to
the store or wait behind older ones, and what waits is sent: together the store and the buffer come
to the same, wherever each record goes (`Due`). Main statement: `cleanUp_delivers`.
-/

namespace SessionRecorder

namespace MemoryStore

/-- The store takes the records when they are appended one after the other. -/
structure Takes (ds : List Delivery) (s : MemoryStore) : Prop where
  connected : s.connected = true
  appends : s.failsAppends = false
  limit : ∀ n, s.appendLimit = some n → s.appends + ds.length ≤ n
  types : ∀ d ∈ ds, d.type.id ∉ s.rejected

/-- Records as the turns that follow `n` others. -/
def numbered (n : Nat) (ds : List Delivery) : List StoredTurn :=
  ds.mapIdx fun i d => ⟨.ofNat (n + i + 1), 0, d⟩

/-- The store with the records behind its turns. -/
def take (ds : List Delivery) (s : MemoryStore) : MemoryStore :=
  { s with appends := s.appends + ds.length, turns := s.turns ++ numbered s.turns.length ds }

variable {s : MemoryStore} {d : Delivery} {ds rest : List Delivery}

theorem take_nil (s : MemoryStore) : s.take [] = s := by
  simp only [take, numbered, List.mapIdx_nil, List.append_nil, List.length_nil, Nat.add_zero]

theorem numbered_cons (n : Nat) (d : Delivery) (rest : List Delivery) :
    numbered n (d :: rest) = ⟨.ofNat (n + 1), 0, d⟩ :: numbered (n + 1) rest := by
  simp only [numbered, List.mapIdx_cons, Nat.add_zero, List.cons.injEq, true_and]
  congr 1
  funext i d
  rw [Nat.add_right_comm n 1 i, Nat.add_assoc n i]

theorem take_cons (s : MemoryStore) (d : Delivery) (rest : List Delivery) :
    s.take (d :: rest) = (s.take [d]).take rest := by
  simp only [take, numbered_cons, List.length_cons, List.length_append, List.append_assoc]
  simp [numbered, Nat.add_assoc, Nat.add_comm 1]

/-- A store that takes records takes the first of them, and then the others. -/
theorem Takes.append (h : s.Takes (d :: rest)) :
    (∃ ack, s.append 0 d = (.ok ack, s.take [d])) ∧ (s.take [d]).Takes rest := by
  obtain ⟨hc, hf, hlimit, htypes⟩ := h
  constructor
  · rcases append_cases 0 d s with ⟨hn, _⟩ | ⟨_, hr, _⟩ | ⟨_, _, hl, _⟩ | ⟨_, _, _, ack, ha⟩
    · rw [hc] at hn
      cases hn
    · exact absurd hr (htypes d List.mem_cons_self)
    · obtain ⟨n, hn, hover⟩ : ∃ n, s.appendLimit = some n ∧ n < s.appends + 1 := by
        simpa [losesAppend, hf, Option.any_eq_true] using hl
      have := hlimit n hn
      rw [List.length_cons] at this
      omega
    · exact ⟨ack, ha⟩
  · refine ⟨hc, hf, fun n hn => ?_, fun e he => htypes e (List.mem_cons_of_mem d he)⟩
    have := hlimit n hn
    simp only [take, List.length_cons, List.length_nil] at this ⊢
    omega

end MemoryStore

theorem Outbox.drainRecords_takes (run : Nat) {ds : List Delivery} {s : MemoryStore}
    (h : s.Takes ds) :
    (drainRecords run ds s).store = s.take ds ∧ (drainRecords run ds s).remaining = [] := by
  induction ds generalizing run s with
  | nil => exact ⟨s.take_nil.symm, rfl⟩
  | cons d rest ih =>
    obtain ⟨⟨ack, happ⟩, hrest⟩ := h.append
    have happ : ContextStore.append 0 d s = (.ok ack, s.take [d]) := happ
    rw [s.take_cons d, drainRecords_ok run rest happ]
    exact ih (run + 1) hrest

namespace Router

variable {σ ρ : Type} [ContextStore σ]

/-! ## The end of recording -/

/-- The router at the end of recording, before its store is closed: the turn in progress is
recorded, and what waits is sent. -/
def finish (time : Int64) (r : Router σ ρ) : Router σ ρ :=
  let (finished, turns) := r.pipeline.turns.flush
  let begun := { r with pipeline := { r.pipeline with turns } }
  (begun.recordTurn time finished).2.sendPending.2

theorem cleanUp_eq_finish (time : Int64) (r : Router σ ρ) :
    ∃ journal, r.cleanUp time =
      ((r.finish time).withStore (ContextStore.close (r.finish time).outbox.store)).report
        journal := by
  have hreports (s : Router σ ρ) (store : σ) (left journal : Log.Journal) :
      ((s.report left).withStore store).report journal =
        (s.withStore store).report (left ++ journal) := by
    simp only [report, withStore, Outbox.report, List.append_assoc]
  obtain ⟨left, failed, hclean⟩ := r.cleanUp_eq time
  exact ⟨left ++ failed, hclean.trans (hreports (r.finish time) _ left failed)⟩

/-- The records of the turn in progress. -/
def inProgress (contexts : SessionContexts) (time : Int64) (r : Router σ ρ) : List Delivery :=
  (r.pipeline.turns.flush.1.toList.flatMap (·.items r.lineage.sessionId time)).map fun item =>
    Record.into contexts.turns ⟨.conversationItem, item⟩

section

variable {r : Router MemoryStore ρ} {goal : MemoryStore} {d : Delivery} {ds : List Delivery}

/-- Over a router with nothing to record and no connection, the end of recording is just
reported. -/
theorem cleanUp_of_closed (time : Int64) (hconnected : r.outbox.store.connected = false)
    (hturns : r.pipeline.turns = .ofAgent r.pipeline.turns.agent) :
    ∃ journal, r.cleanUp time = r.report journal := by
  have hflush : r.pipeline.turns.flush = (none, r.pipeline.turns) := by
    rw [hturns]
    rfl
  have hfinish : r.finish time = r := by
    have hclosed : r.isConnected = false := hconnected
    simp only [finish, hflush, recordTurn, sendPending, hclosed, Bool.false_and,
      Bool.false_eq_true, ↓reduceIte]
  obtain ⟨journal, hclean⟩ := r.cleanUp_eq_finish time
  have hclose : ContextStore.close r.outbox.store = r.outbox.store := by
    change { r.outbox.store with connected := false } = _
    rw [← hconnected]
  rw [hfinish, hclose] at hclean
  exact ⟨journal, hclean⟩

/-- Records that are still to be submitted can be stored behind those that wait, and can wait
themselves; `goal` is what the store is with all of them. -/
structure Due (ds : List Delivery) (goal : MemoryStore) (r : Router MemoryStore ρ) : Prop where
  takes : r.outbox.store.Takes (r.outbox.buffer.records ++ ds)
  room : (r.outbox.buffer.records ++ ds).length ≤ r.outbox.buffer.capacity
  goal : r.outbox.store.take (r.outbox.buffer.records ++ ds) = goal

theorem Due.submit {context : UInt64} {record : Record}
    (h : r.Due (record.into context :: ds) goal) : (r.submit context record).2.Due ds goal := by
  obtain ⟨htakes, hroom, hgoal⟩ := h
  have hconnected : r.outbox.isConnected = true := htakes.connected
  unfold Router.submit Outbox.submit
  change Due ds goal { r with outbox := (r.outbox.deliver (record.into context)).2 }
  cases hrecords : r.outbox.buffer.records with
  | nil =>
    have hwaits : r.outbox.waits = false := by
      simp [Outbox.waits, hconnected, RetryBuffer.isEmpty, hrecords]
    rw [hrecords, List.nil_append] at htakes hroom hgoal
    obtain ⟨⟨ack, happ⟩, hrest⟩ := htakes.append
    have happ : ContextStore.append 0 (record.into context) r.outbox.store = _ := happ
    simp only [Outbox.deliver, hwaits, happ, Bool.false_eq_true, ↓reduceIte]
    refine ⟨?_, ?_, ?_⟩ <;> simp only [Outbox.report, hrecords, List.nil_append]
    · exact hrest
    · exact Nat.le_of_succ_le hroom
    · rw [← hgoal, ← MemoryStore.take_cons]
  | cons first behind =>
    have hwaits : r.outbox.waits = true := by
      simp [Outbox.waits, RetryBuffer.isEmpty, hrecords]
    have hbehind : r.outbox.buffer.records.length < r.outbox.buffer.capacity := by
      rw [List.length_append, List.length_cons] at hroom
      omega
    rw [← List.singleton_append, ← List.append_assoc] at htakes hroom hgoal
    simp only [Outbox.deliver, hwaits, ↓reduceIte, Outbox.postpone]
    refine ⟨?_, ?_, ?_⟩ <;>
      simp only [Outbox.report, RetryBuffer.enqueue_of_room _ hbehind]
    · exact htakes
    · exact hroom
    · exact hgoal

theorem Due.submitItems {context : UInt64} {items : List Payload}
    (h : r.Due (items.map fun item => Record.into context ⟨.conversationItem, item⟩) goal) :
    (r.submitItems context items).2.Due [] goal := by
  induction items generalizing r with
  | nil => exact h
  | cons item rest ih => exact ih h.submit

/-- What waits is sent. -/
theorem Due.sendPending (h : r.Due [] goal) :
    r.sendPending.2.outbox.store = goal ∧ r.sendPending.2.outbox.buffer.records = [] := by
  obtain ⟨htakes, -, hgoal⟩ := h
  rw [List.append_nil] at htakes hgoal
  have hconnected : r.isConnected = true := htakes.connected
  cases hempty : r.outbox.buffer.isEmpty with
  | true =>
    have hrecords : r.outbox.buffer.records = [] := List.isEmpty_iff.1 hempty
    rw [hrecords, MemoryStore.take_nil] at hgoal
    rw [sendPending_of_empty hempty]
    exact ⟨hgoal, hrecords⟩
  | false =>
    obtain ⟨hstore, hremaining⟩ := Outbox.drainRecords_takes 0 htakes
    simp only [Router.sendPending, hconnected, hempty, Bool.not_false, Bool.and_true, ↓reduceIte]
    exact ⟨hstore.trans hgoal, hremaining⟩

theorem Due.finish {contexts : SessionContexts} {time : Int64}
    (hcontexts : r.contexts = some contexts) (h : r.Due (r.inProgress contexts time) goal) :
    (r.finish time).outbox.store = goal ∧ (r.finish time).outbox.buffer.records = [] := by
  let begun := { r with pipeline := { r.pipeline with turns := r.pipeline.turns.flush.2 } }
  have hbegun : Due (r.inProgress contexts time) goal begun := ⟨h.takes, h.room, h.goal⟩
  have hrecorded : (begun.recordTurn time r.pipeline.turns.flush.1).2.Due [] goal := by
    unfold inProgress at hbegun
    unfold Router.recordTurn
    cases hfinished : r.pipeline.turns.flush.1 with
    | none =>
      rw [hfinished] at hbegun
      exact hbegun
    | some turn =>
      rw [hfinished, Option.toList_some, List.flatMap_singleton] at hbegun
      have hopen : begun.contexts = some contexts := hcontexts
      simp only [hopen]
      exact hbegun.submitItems
  exact hrecorded.sendPending

/-- The end of recording leaves the store closed and no turn in progress, and where it is repeated
at once, it changes nothing any more, whatever the state of the router and the faults of its store.
In a session whose store is connected and takes all records that wait and all of the turn in
progress, and where these could wait together, it leaves nothing waiting, and the store holds
behind its turns those that waited, followed by those of the turn in progress. -/
theorem cleanUp_delivers (time again : Int64) (r : Router MemoryStore ρ) :
    let after := r.cleanUp time
    after.outbox.store.connected = false ∧
    after.pipeline.turns = .ofAgent r.pipeline.turns.agent ∧
    (∃ journal, after.cleanUp again = after.report journal) ∧
    ∀ contexts, r.contexts = some contexts →
      let due := r.outbox.buffer.records ++ r.inProgress contexts time
      r.outbox.store.Takes due → due.length ≤ r.outbox.buffer.capacity →
      after.outbox.buffer.records = [] ∧
        after.outbox.store.turns = r.outbox.store.turns ++
          MemoryStore.numbered r.outbox.store.turns.length due := by
  intro after
  obtain ⟨journal, hafter⟩ := r.cleanUp_eq_finish time
  have hclosed : after.outbox.store.connected = false := by
    rw [show after = _ from hafter]
    rfl
  have hturns : after.pipeline.turns = .ofAgent r.pipeline.turns.agent := by
    rw [show after.pipeline = _ from pipeline_cleanUp time r]
    rfl
  refine ⟨hclosed, hturns, cleanUp_of_closed again hclosed (by rw [hturns]; rfl), ?_⟩
  intro contexts hcontexts due htakes hroom
  obtain ⟨hstore, hrecords⟩ := Due.finish hcontexts ⟨htakes, hroom, rfl⟩
  rw [show after = _ from hafter]
  refine ⟨hrecords, ?_⟩
  change (r.finish time).outbox.store.turns = _
  rw [hstore]
  rfl

end

end Router

namespace Sample

/-- A record waits since its append lost the connection, which is there again, and a turn is in
progress. -/
def waiting : Router MemoryStore CountingPublisher :=
  Router.run (fun change store => change store)
    (.create { tag := "recorder" } lineage config identity [] .createNew publisher) [
      .setUp 1, .event prompt, .outside fun store => store.switch (.failAppends true), .event tool,
      .outside fun store => store.switch (.failAppends false),
      .outside fun store => store.connect.2]

end Sample

/-- One record waited and the turn has two, and all three are delivered. -/
theorem waiting_delivered :
    let r := Sample.waiting
    let contexts := SessionContexts.mk 1 2 none none
    let due := r.outbox.buffer.records ++ r.inProgress contexts 4
    r.contexts = some contexts ∧ r.outbox.store.Takes due ∧
      due.length ≤ r.outbox.buffer.capacity ∧
      r.outbox.buffer.records.length = 1 ∧ (r.inProgress contexts 4).length = 2 ∧
      (r.cleanUp 4).outbox.buffer.records = [] ∧
      (r.cleanUp 4).outbox.store.turns = r.outbox.store.turns ++
        MemoryStore.numbered r.outbox.store.turns.length due := by
  intro r contexts due
  have hcontexts : r.contexts = some contexts := by decide +kernel
  have htakes : r.outbox.store.Takes due := by
    have hlimit : r.outbox.store.appendLimit = none := by decide +kernel
    exact ⟨by decide +kernel, by decide +kernel, by simp [hlimit], by decide +kernel⟩
  have hroom : due.length ≤ r.outbox.buffer.capacity := by decide +kernel
  obtain ⟨-, -, -, hdelivered⟩ := Router.cleanUp_delivers 4 5 r
  exact ⟨hcontexts, htakes, hroom, by decide +kernel, by decide +kernel,
    hdelivered contexts hcontexts htakes hroom⟩

end SessionRecorder

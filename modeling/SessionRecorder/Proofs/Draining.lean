import SessionRecorder.Proofs.StoreUse

/-!
Sending what waits. It is done in rounds: a flush ends at the first record whose append fails, and
where the store has refused that record, it is discarded and another flush begins (`Rounds`). The
rounds come to an end, for each refusal takes out a record, and they do what one pass over the
records does (`rounds_iff`). Main statement: `drain_attempts`.
-/

namespace SessionRecorder

section

variable {σ : Type} [ContextStore σ]

namespace RetryBuffer

/-- Sending in rounds, with the number of records sent, the buffer and the store behind it. -/
inductive Rounds : RetryBuffer → σ → Nat → RetryBuffer → σ → Prop where
  /-- A flush that ends with the buffer empty, or by an error that is no refusal. -/
  | last {b b' : RetryBuffer} {s : σ} {f : Flush σ StoreError}
      (hflush : b.flush sendTo s = (b', f)) (hend : ∀ e, f.error = some e → e.isProtocol = false) :
      Rounds b s f.sent b' f.sink
  /-- A flush that ends by a refusal, and the rounds that follow once a record is discarded. -/
  | refused {b b' b'' : RetryBuffer} {s s' : σ} {f : Flush σ StoreError} {e : StoreError} {n : Nat}
      (hflush : b.flush sendTo s = (b', f)) (herror : f.error = some e) (he : e.isProtocol = true)
      (hrest : Rounds b'.discardFirst.2 f.sink n b'' s') :
      Rounds b s (f.sent + n) b'' s'

variable {b b' b'' : RetryBuffer} {s s' s'' next : σ} {n m : Nat} {d : Delivery}
  {rest : List Delivery} {e : StoreError}

theorem Rounds.unique (h : Rounds b s n b' s') (h' : Rounds b s m b'' s'') :
    n = m ∧ b' = b'' ∧ s' = s'' := by
  induction h generalizing m with
  | last hflush hend =>
    cases h' with
    | last hflush' _ =>
      cases hflush.symm.trans hflush'
      exact ⟨rfl, rfl, rfl⟩
    | refused hflush' herror he _ =>
      cases hflush.symm.trans hflush'
      rw [hend _ herror] at he
      cases he
  | refused hflush herror he hrest ih =>
    cases h' with
    | last hflush' hend =>
      cases hflush.symm.trans hflush'
      rw [hend _ herror] at he
      cases he
    | refused hflush' herror' he' hrest' =>
      cases hflush.symm.trans hflush'
      obtain ⟨rfl, hbuffer, hstore⟩ := ih hrest'
      exact ⟨rfl, hbuffer, hstore⟩

/-- A record that the store takes counts as one more of the first round. -/
theorem Rounds.taken {ack : ContextHead} (hrecords : b.records = d :: rest)
    (happ : ContextStore.append 0 d s = (.ok ack, next))
    (h : Rounds { b with records := rest, sent := b.sent + 1 } next n b' s') :
    Rounds b s (n + 1) b' s' := by
  have hflush {b' : RetryBuffer} {f : Flush σ StoreError}
      (h : flush sendTo { b with records := rest, sent := b.sent + 1 } next = (b', f)) :
      b.flush sendTo s = (b', { f with sent := f.sent + 1 }) := by
    have hsend : sendTo d s = (.ok (), next) := by simp [sendTo, happ, Except.map]
    obtain ⟨rfl, rfl⟩ := Prod.mk.inj h
    simp [flush, flushRecords, hrecords, hsend, Nat.add_assoc, Nat.add_comm 1]
  cases h with
  | last h hend => exact .last (hflush h) hend
  | @refused _ _ _ _ _ f _ n h herror he hrest =>
    have hmore : Rounds b s (f.sent + 1 + n) b' s' := .refused (hflush h) herror he hrest
    rwa [Nat.add_right_comm] at hmore

/-- A flush that fails at its first record leaves the buffer as it was. -/
theorem flush_failed (hrecords : b.records = d :: rest)
    (happ : ContextStore.append 0 d s = (.error e, next)) :
    b.flush sendTo s = (b, ⟨0, d :: rest, next, some e⟩) := by
  have hsend : sendTo d s = (.error e, next) := by simp [sendTo, happ, Except.map]
  simp only [flush, flushRecords, hrecords, hsend, Nat.add_zero]
  rw [← hrecords]

/-- The rounds end, with what one pass over the records leaves. -/
theorem rounds_drainRecords (run : Nat) (b : RetryBuffer) (s : σ) :
    let r := Outbox.drainRecords run b.records s
    Rounds b s r.sent { b with
      records := r.remaining
      sent := b.sent + r.sent
      rejected := b.rejected + r.rejected } r.store := by
  generalize hrecords : b.records = ds
  induction ds generalizing run b s with
  | nil =>
    have hflush : b.flush sendTo s = (b, ⟨0, [], s, none⟩) := by
      simp only [flush, hrecords, flushRecords, Nat.add_zero]
      rw [← hrecords]
    have hlast : Rounds b s 0 b s := .last hflush fun e he => by cases he
    simp only [Outbox.drainRecords, Nat.add_zero]
    rwa [← hrecords]
  | cons d rest ih =>
    rcases happ : ContextStore.append 0 d s with ⟨e | ack, next⟩
    · have hflush := flush_failed hrecords happ
      cases he : e.isProtocol with
      | true =>
        obtain ⟨journal, hdrain⟩ := Outbox.drainRecords_refused run rest happ he
        have hdiscard : b.discardFirst.2 =
            { b with records := rest, rejected := b.rejected + 1 } := by
          simp only [discardFirst, hrecords]
        have hrest := ih 0 b.discardFirst.2 next (by rw [hdiscard])
        have hrounds := Rounds.refused hflush rfl he hrest
        rw [hdiscard] at hrounds
        simp only [hdrain]
        simpa [Nat.add_assoc, Nat.add_comm 1] using hrounds
      | false =>
        obtain ⟨journal, hdrain⟩ := Outbox.drainRecords_stopped run rest happ he
        have hlast : Rounds b s 0 b next := .last hflush (by rintro _ ⟨⟩; exact he)
        simp only [hdrain, Nat.add_zero]
        rwa [← hrecords]
    · have hrest := ih (run + 1) { b with records := rest, sent := b.sent + 1 } next rfl
      have hrounds := Rounds.taken hrecords happ hrest
      simp only [Outbox.drainRecords_ok run rest happ]
      simpa [Nat.add_assoc, Nat.add_comm 1] using hrounds

end RetryBuffer

namespace Outbox

/-- Sending what waits ends, and in one way. -/
theorem rounds_iff (o : Outbox σ) (n : Nat) (b : RetryBuffer) (s : σ) :
    RetryBuffer.Rounds o.buffer o.store n b s ↔
      n = o.drain.1 ∧ b = o.drain.2.buffer ∧ s = o.drain.2.store := by
  have hdrain : RetryBuffer.Rounds o.buffer o.store o.drain.1 o.drain.2.buffer o.drain.2.store :=
    RetryBuffer.rounds_drainRecords 0 o.buffer o.store
  constructor
  · exact fun h => h.unique hdrain
  · rintro ⟨rfl, rfl, rfl⟩
    exact hdrain

/-! ## The attempts -/

/-- What a store answers to an append. -/
abbrev Answer := Except StoreError ContextHead

/-- Whether the answer refuses the record. -/
def Answer.refuses : Answer → Bool
  | .ok _ => false
  | .error e => e.isProtocol

/-- Whether nothing is left to do for the record: it is stored, or refused. -/
def Answer.settles (answer : Answer) : Bool := answer.isOk || answer.refuses

/-- Records appended one after the other, each with the answer, up to the first whose answer does
not settle it. -/
def attempts : List Delivery → σ → List (Delivery × Answer)
  | [], _ => []
  | d :: rest, s =>
    let (answer, s) := ContextStore.append 0 d s
    (d, answer) :: if Answer.settles answer then attempts rest s else []

/-- How attempts to send records can end, with the records that remain. -/
inductive Ends (ds : List Delivery) : List (Delivery × Answer) → List Delivery → Prop where
  /-- Every record was settled. -/
  | settled {tries : List (Delivery × Answer)} (hall : ∀ t ∈ tries, t.2.settles = true)
      (hrecords : ds = tries.map (·.1)) : Ends ds tries []
  /-- All were settled before the last that was tried. It remains, with those behind it. -/
  | stopped {front : List (Delivery × Answer)} {d : Delivery} {e : StoreError}
      {rest : List Delivery} (hall : ∀ t ∈ front, t.2.settles = true) (he : e.isProtocol = false)
      (hrecords : ds = front.map (·.1) ++ d :: rest) :
      Ends ds (front ++ [(d, .error e)]) (d :: rest)

theorem Ends.cons {d : Delivery} {answer : Answer} {ds left : List Delivery}
    {tries : List (Delivery × Answer)} (hanswer : answer.settles = true) (h : Ends ds tries left) :
    Ends (d :: ds) ((d, answer) :: tries) left := by
  cases h with
  | settled hall hrecords =>
    exact .settled (List.forall_mem_cons.2 ⟨hanswer, hall⟩) (by rw [hrecords, List.map_cons])
  | @stopped front d' e rest hall he hrecords =>
    have hstopped : Ends (d :: ds) ((d, answer) :: front ++ [(d', .error e)]) (d' :: rest) :=
      .stopped (List.forall_mem_cons.2 ⟨hanswer, hall⟩) he
        (by rw [hrecords, List.map_cons, List.cons_append])
    exact hstopped

/-- Each record is tried once at most, and in order. -/
theorem Ends.tried {ds left : List Delivery} {tries : List (Delivery × Answer)}
    (h : Ends ds tries left) : tries.map (·.1) <+: ds := by
  cases h with
  | settled _ hrecords => exact hrecords ▸ List.prefix_refl _
  | stopped _ _ hrecords =>
    rw [hrecords, List.map_append]
    exact (List.prefix_append_right_inj _).2 ⟨_, rfl⟩

/-- One pass over the records, as the attempts show it. -/
structure Passed (ds : List Delivery) (s : σ) (r : Drain σ) : Prop where
  ends : Ends ds (attempts ds s) r.remaining
  sent : r.sent = (attempts ds s).countP (·.2.isOk)
  rejected : r.rejected = (attempts ds s).countP (·.2.refuses)

theorem passed_drainRecords (run : Nat) (ds : List Delivery) (s : σ) :
    Passed ds s (drainRecords run ds s) := by
  induction ds generalizing run s with
  | nil => exact ⟨.settled nofun rfl, rfl, rfl⟩
  | cons d rest ih =>
    rcases happ : ContextStore.append 0 d s with ⟨e | ack, next⟩
    · cases he : e.isProtocol with
      | true =>
        have hanswer : Answer.settles (.error e) = true := he
        obtain ⟨journal, hdrain⟩ := drainRecords_refused run rest happ he
        obtain ⟨hends, hsent, hrejected⟩ := ih 0 next
        have htries : attempts (d :: rest) s = (d, .error e) :: attempts rest next := by
          simp only [attempts, happ, hanswer, ↓reduceIte]
        rw [hdrain]
        refine ⟨?_, ?_, ?_⟩ <;> simp only [htries]
        · exact hends.cons hanswer
        · rw [hsent, List.countP_cons_of_neg (by exact Bool.false_ne_true)]
        · rw [hrejected, List.countP_cons_of_pos (by exact he)]
      | false =>
        have hanswer : Answer.settles (.error e) = false := he
        obtain ⟨journal, hdrain⟩ := drainRecords_stopped run rest happ he
        have htries : attempts (d :: rest) s = [(d, .error e)] := by
          simp only [attempts, happ, hanswer, Bool.false_eq_true, ↓reduceIte]
        rw [hdrain]
        refine ⟨?_, ?_, ?_⟩ <;> simp only [htries]
        · have hstopped : Ends (d :: rest) ([] ++ [(d, .error e)]) (d :: rest) :=
            .stopped nofun he rfl
          exact hstopped
        · rfl
        · rw [List.countP_cons_of_neg (by simpa [Answer.refuses] using he)]
          rfl
    · obtain ⟨hends, hsent, hrejected⟩ := ih (run + 1) next
      have htries : attempts (d :: rest) s = (d, .ok ack) :: attempts rest next := by
        simp only [attempts, happ]
        rfl
      rw [drainRecords_ok run rest happ]
      refine ⟨?_, ?_, ?_⟩ <;> simp only [htries]
      · exact hends.cons rfl
      · rw [hsent, List.countP_cons_of_pos rfl]
      · rw [hrejected, List.countP_cons_of_neg (by exact Bool.false_ne_true)]

/-- The calls that are made on the store are the attempts, in their order. -/
theorem calls_drainRecords (run : Nat) (ds : List Delivery) (s : NotedStore σ) :
    (drainRecords run ds s).store.calls =
      s.calls ++ (attempts ds s).map fun t => .append 0 t.1 := by
  induction ds generalizing run s with
  | nil => exact (List.append_nil _).symm
  | cons d rest ih =>
    have hcalls {answer : Answer} {next : NotedStore σ}
        (h : ContextStore.append 0 d s = (answer, next)) :
        next.calls = s.calls ++ [.append 0 d] := by
      rw [← (Prod.mk.inj h).2]
    rcases happ : ContextStore.append 0 d s with ⟨e | ack, next⟩ <;>
      have hnoted := hcalls happ
    · cases he : e.isProtocol with
      | true =>
        have hanswer : Answer.settles (.error e) = true := he
        obtain ⟨journal, hdrain⟩ := drainRecords_refused run rest happ he
        rw [hdrain]
        simp only [attempts, happ, hanswer, ↓reduceIte, ih, hnoted, List.map_cons,
          List.append_assoc, List.singleton_append]
      | false =>
        have hanswer : Answer.settles (.error e) = false := he
        obtain ⟨journal, hdrain⟩ := drainRecords_stopped run rest happ he
        rw [hdrain]
        simp only [attempts, happ, hanswer, Bool.false_eq_true, ↓reduceIte, hnoted, List.map_cons,
          List.map_nil]
    · have hanswer : Answer.settles (.ok ack) = true := rfl
      rw [drainRecords_ok run rest happ]
      simp only [attempts, happ, hanswer, ↓reduceIte, ih, hnoted, List.map_cons,
        List.append_assoc, List.singleton_append]

/-- Sending what waits ends whatever the store answers. The records are tried from the front, each
once at most and in order, until one fails that is not refused; this one and those behind it
remain, and without such a failure none does. The number that is given is that of the records that
the store took, and the buffer counts those and the refused ones, and changes in nothing else. -/
theorem drain_attempts (o : Outbox (NotedStore σ)) :
    let tries := attempts o.buffer.records o.store
    let taken := tries.countP (·.2.isOk)
    (∀ n b s, RetryBuffer.Rounds o.buffer o.store n b s ↔
      n = o.drain.1 ∧ b = o.drain.2.buffer ∧ s = o.drain.2.store) ∧
    o.drain.2.store.calls = o.store.calls ++ (tries.map fun t => .append 0 t.1) ∧
    tries.map (·.1) <+: o.buffer.records ∧
    o.drain.1 = taken ∧
    ∃ left, Ends o.buffer.records tries left ∧ o.drain.2.buffer = { o.buffer with
      records := left
      sent := o.buffer.sent + taken
      rejected := o.buffer.rejected + tries.countP (·.2.refuses) } := by
  intro tries taken
  have hpassed := passed_drainRecords 0 o.buffer.records o.store
  refine ⟨rounds_iff o, calls_drainRecords 0 o.buffer.records o.store, hpassed.ends.tried,
    hpassed.sent, _, hpassed.ends, ?_⟩
  simp only [taken, tries, ← hpassed.sent, ← hpassed.rejected]
  rfl

end Outbox

end

end SessionRecorder

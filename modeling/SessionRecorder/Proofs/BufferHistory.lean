import SessionRecorder.Proofs.Work

/-!
What a buffer holds after any calls of it, with sinks that may fail at any record. What waits is
the end of all that was ever enqueued, what was delivered is in the same order before it, and the
counters account for every record (`Accounted`). A record is let go only by a full buffer
(`Evicts`), and a flush takes just what its sink takes (`Flushes`). Main statement:
`buffer_history`.
-/

namespace SessionRecorder

namespace RetryBuffer

variable {κ ε : Type}

/-- A call of a buffer. A flush sends to a sink, whose state stays between the flushes. -/
inductive Use (κ ε : Type) where
  | enqueue (d : Delivery)
  | flush (send : Delivery → κ → Except ε Unit × κ)
  | discard
  | clear

/-- The record that a call brings. -/
def Use.record? : Use κ ε → Option Delivery
  | .enqueue d => some d
  | .flush _ | .discard | .clear => none

/-- A sink that notes the records it takes. -/
def noting (send : Delivery → κ → Except ε Unit × κ) (d : Delivery) (k : κ × List Delivery) :
    Except ε Unit × (κ × List Delivery) :=
  match send d k.1 with
  | (.ok (), next) => (.ok (), (next, k.2 ++ [d]))
  | (.error e, next) => (.error e, (next, k.2))

/-- A buffer with its sink, the records that the sink has taken, and the number of those that were
dropped when the buffer was cleared. -/
structure InUse (κ : Type) where
  buffer : RetryBuffer
  sink : κ
  delivered : List Delivery := []
  cleared : Nat := 0

namespace InUse

def perform (u : InUse κ) : Use κ ε → InUse κ
  | .enqueue d => { u with buffer := (u.buffer.enqueue d).1 }
  | .flush send =>
    let (buffer, f) := u.buffer.flush (noting send) (u.sink, u.delivered)
    { u with buffer, sink := f.sink.1, delivered := f.sink.2 }
  | .discard => { u with buffer := u.buffer.discardFirst.2 }
  | .clear => { u with buffer := u.buffer.clear, cleared := u.cleared + u.buffer.size }

def run (uses : List (Use κ ε)) (u : InUse κ) : InUse κ := uses.foldl perform u

end InUse

/-! ## What a flush takes -/

/-- The sink behind these records, if it takes all of them. -/
def takes (send : Delivery → κ → Except ε Unit × κ) : List Delivery → κ → Option κ
  | [], k => some k
  | d :: rest, k =>
    match send d k with
    | (.ok (), next) => takes send rest next
    | (.error _, _) => none

/-- To note what is taken changes nothing else. -/
theorem flushRecords_noting (send : Delivery → κ → Except ε Unit × κ) (ds : List Delivery) (k : κ)
    (noted : List Delivery) :
    let f := flushRecords send ds k
    flushRecords (noting send) ds (k, noted) =
      ⟨f.sent, f.remaining, (f.sink, noted ++ ds.take f.sent), f.error⟩ := by
  induction ds generalizing k noted with
  | nil => simp [flushRecords]
  | cons d rest ih =>
    rcases hsend : send d k with ⟨e | ⟨⟩, next⟩
    · simp [flushRecords, noting, hsend]
    · simp [flushRecords, noting, hsend, ih]

/-- The records that a flush sends are taken, and no more could be taken with them. -/
theorem flushRecords_longest (send : Delivery → κ → Except ε Unit × κ) (ds : List Delivery)
    (k : κ) :
    let taken := ds.take (flushRecords send ds k).sent
    (takes send taken k).isSome ∧
      ∀ more, more <+: ds → (takes send more k).isSome → more <+: taken := by
  induction ds generalizing k with
  | nil =>
    refine ⟨rfl, ?_⟩
    intro more hmore _
    exact hmore
  | cons d rest ih =>
    rcases hsend : send d k with ⟨e | ⟨⟩, next⟩
    · have hsent : (flushRecords send (d :: rest) k).sent = 0 := by simp [flushRecords, hsend]
      rw [hsent]
      refine ⟨rfl, ?_⟩
      intro more hmore htakes
      cases more with
      | nil => exact List.nil_prefix
      | cons x others =>
        obtain ⟨rfl, _⟩ := List.cons_prefix_cons.1 hmore
        simp [takes, hsend] at htakes
    · have hsent : (flushRecords send (d :: rest) k).sent =
          (flushRecords send rest next).sent + 1 := by simp [flushRecords, hsend]
      obtain ⟨htaken, hlongest⟩ := ih next
      rw [hsent, List.take_succ_cons]
      refine ⟨by simpa [takes, hsend] using htaken, ?_⟩
      intro more hmore htakes
      cases more with
      | nil => exact List.nil_prefix
      | cons x others =>
        obtain ⟨rfl, hothers⟩ := List.cons_prefix_cons.1 hmore
        simp only [takes, hsend] at htakes
        exact List.cons_prefix_cons.2 ⟨rfl, hlongest others hothers htakes⟩

namespace InUse

variable {u : InUse κ}

/-- A flush as it shows: the records it takes off the front are those that the sink takes, as many
as it takes in a row. -/
def Flushes (send : Delivery → κ → Except ε Unit × κ) (u v : InUse κ) : Prop :=
  ∃ taken, u.buffer.records = taken ++ v.buffer.records ∧ v.delivered = u.delivered ++ taken ∧
    (takes send taken u.sink).isSome ∧
    ∀ more, more <+: u.buffer.records → (takes send more u.sink).isSome → more <+: taken

theorem perform_flush (send : Delivery → κ → Except ε Unit × κ) (u : InUse κ) :
    let f := flushRecords send u.buffer.records u.sink
    u.perform (.flush send) = { u with
      buffer := { u.buffer with records := f.remaining, sent := u.buffer.sent + f.sent }
      sink := f.sink
      delivered := u.delivered ++ u.buffer.records.take f.sent } := by
  simp only [perform, flush, flushRecords_noting]

theorem flushes (send : Delivery → κ → Except ε Unit × κ) (u : InUse κ) :
    u.Flushes send (u.perform (.flush send)) := by
  obtain ⟨htaken, hlongest⟩ := flushRecords_longest send u.buffer.records u.sink
  rw [perform_flush]
  refine ⟨_, ?_, rfl, htaken, hlongest⟩
  simp only [remaining_flushRecords, List.take_append_drop]

/-! ## What a buffer lets go -/

/-- A new record takes the place of the oldest one in a buffer that is full, and of none in another.
No other call lets a record go to make room. -/
def Evicts (u : InUse κ) (limit : Nat) (v : InUse κ) : Use κ ε → Prop
  | .enqueue d =>
    if u.buffer.size < limit then
      v.buffer.records = u.buffer.records ++ [d] ∧ v.buffer.overflow = u.buffer.overflow
    else
      v.buffer.records = u.buffer.records.tail ++ [d] ∧
        v.buffer.overflow = u.buffer.overflow + 1
  | .flush _ | .discard | .clear => v.buffer.overflow = u.buffer.overflow

theorem evicts (use : Use κ ε) (u : InUse κ) :
    u.Evicts u.buffer.capacity (u.perform use) use := by
  cases use with
  | enqueue d =>
    by_cases hroom : u.buffer.records.length < u.buffer.capacity
    · simp only [Evicts, perform, size, hroom, ↓reduceIte, enqueue_of_room d hroom, and_self]
    · have hfull : u.buffer.capacity ≤ u.buffer.records.length := Nat.not_lt.1 hroom
      simp only [Evicts, perform, size, hroom, ↓reduceIte, enqueue_of_full d hfull, and_self]
  | flush send => rfl
  | discard =>
    simp only [Evicts, perform, discardFirst]
    split <;> rfl
  | clear => rfl

/-! ## The account -/

/-- Where all the records are that were ever enqueued, in a buffer with room for so many. -/
structure Accounted (limit : Nat) (past : List Delivery) (u : InUse κ) : Prop where
  capacity : u.buffer.capacity = limit
  positive : 0 < limit
  size : u.buffer.records.length ≤ limit
  suffix : u.buffer.records <:+ past
  order : (u.delivered ++ u.buffer.records).Sublist past
  enqueued : u.buffer.enqueued = past.length
  sent : u.buffer.sent = u.delivered.length
  total : u.buffer.enqueued = u.buffer.records.length + u.buffer.sent + u.buffer.overflow +
    u.buffer.rejected + u.cleared

variable {limit : Nat} {past : List Delivery}

theorem Accounted.enqueue (d : Delivery) (h : u.Accounted limit past) :
    (u.perform (.enqueue d : Use κ ε)).Accounted limit (past ++ [d]) := by
  obtain ⟨hcapacity, hpositive, hsize, hsuffix, horder, henqueued, hsent, htotal⟩ := h
  by_cases hroom : u.buffer.records.length < u.buffer.capacity
  · simp only [perform, enqueue_of_room d hroom]
    refine ⟨hcapacity, hpositive, ?_, ?_, ?_, ?_, hsent, ?_⟩
    · simp only [List.length_append, List.length_singleton]
      omega
    · exact List.suffix_append_inj_of_length_eq rfl |>.2 ⟨hsuffix, rfl⟩
    · rw [← List.append_assoc]
      exact horder.append_right [d]
    · simp [henqueued]
    · simp only [List.length_append, List.length_singleton]
      omega
  · -- The oldest record makes room: it is counted, and it was in front of all that stay.
    have hfull : u.buffer.capacity ≤ u.buffer.records.length := Nat.not_lt.1 hroom
    simp only [perform, enqueue_of_full d hfull]
    refine ⟨hcapacity, hpositive, ?_, ?_, ?_, ?_, hsent, ?_⟩
    · simp only [List.length_append, List.length_tail, List.length_singleton]
      omega
    · exact List.suffix_append_inj_of_length_eq rfl |>.2
        ⟨(List.tail_suffix _).trans hsuffix, rfl⟩
    · have htail := ((List.Sublist.refl u.delivered).append
        (List.tail_sublist u.buffer.records)).trans horder
      rw [← List.append_assoc]
      exact htail.append_right [d]
    · simp [henqueued]
    · simp only [List.length_append, List.length_tail, List.length_singleton]
      omega

theorem Accounted.flush (send : Delivery → κ → Except ε Unit × κ)
    (h : u.Accounted limit past) :
    (u.perform (.flush send)).Accounted limit past := by
  obtain ⟨hcapacity, hpositive, hsize, hsuffix, horder, henqueued, hsent, htotal⟩ := h
  have hbound := sent_flushRecords_le send u.buffer.records u.sink
  rw [perform_flush]
  refine ⟨hcapacity, hpositive, ?_, ?_, ?_, henqueued, ?_, ?_⟩
  · simp only [remaining_flushRecords, List.length_drop]
    omega
  · simp only [remaining_flushRecords]
    exact (List.drop_suffix _ _).trans hsuffix
  · simp only [remaining_flushRecords, List.append_assoc, List.take_append_drop]
    exact horder
  · simp only [List.length_append, List.length_take, hsent]
    omega
  · simp only [remaining_flushRecords, List.length_drop]
    omega

theorem Accounted.discard (h : u.Accounted limit past) :
    (u.perform (.discard : Use κ ε)).Accounted limit past := by
  obtain ⟨hcapacity, hpositive, hsize, hsuffix, horder, henqueued, hsent, htotal⟩ := h
  simp only [perform, discardFirst]
  split
  · exact ⟨hcapacity, hpositive, hsize, hsuffix, horder, henqueued, hsent, htotal⟩
  · rename_i d rest hrecords
    rw [hrecords] at hsize hsuffix horder htotal
    rw [List.length_cons] at hsize htotal
    refine ⟨hcapacity, hpositive, ?_, ?_, ?_, henqueued, hsent, ?_⟩
    · simp only
      omega
    · exact (List.suffix_cons d rest).trans hsuffix
    · exact ((List.Sublist.refl _).append (List.sublist_cons_self d rest)).trans horder
    · simp only
      omega

theorem Accounted.clear (h : u.Accounted limit past) :
    (u.perform (.clear : Use κ ε)).Accounted limit past := by
  obtain ⟨hcapacity, hpositive, hsize, hsuffix, horder, henqueued, hsent, htotal⟩ := h
  refine ⟨hcapacity, hpositive, Nat.zero_le _, List.nil_suffix, ?_, henqueued, hsent, ?_⟩
  · simp only [perform, RetryBuffer.clear, List.append_nil]
    exact (List.sublist_append_left _ _).trans horder
  · simp only [perform, RetryBuffer.clear, RetryBuffer.size, List.length_nil]
    omega

theorem Accounted.perform (use : Use κ ε) (h : u.Accounted limit past) :
    (u.perform use).Accounted limit (past ++ use.record?.toList) := by
  cases use with
  | enqueue d => exact h.enqueue d
  | flush send => simpa [Use.record?] using h.flush send
  | discard => simpa [Use.record?] using h.discard (ε := ε)
  | clear => simpa [Use.record?] using h.clear (ε := ε)

theorem Accounted.run (uses : List (Use κ ε)) (h : u.Accounted limit past) :
    (u.run uses).Accounted limit (past ++ uses.filterMap Use.record?) := by
  induction uses generalizing u past with
  | nil =>
    rw [List.filterMap_nil, List.append_nil]
    exact h
  | cons use rest ih =>
    have hrest : (u.run (use :: rest)).Accounted limit
        (past ++ use.record?.toList ++ rest.filterMap Use.record?) := ih (h.perform use)
    rw [List.append_assoc] at hrest
    cases hrecord : use.record? <;> simpa [hrecord, List.filterMap_cons] using hrest

/-! ## The buffer of an outbox -/

variable {σ : Type} [ContextStore σ]

/-- A record that the sink takes could as well have been sent before. -/
theorem perform_flush_taken {send : Delivery → κ → Except ε Unit × κ} {d : Delivery}
    {rest : List Delivery} {next : κ} (hrecords : u.buffer.records = d :: rest)
    (hsend : send d u.sink = (.ok (), next)) :
    u.perform (.flush send) = perform
      { u with
        buffer := { u.buffer with records := rest, sent := u.buffer.sent + 1 }
        sink := next
        delivered := u.delivered ++ [d] } (.flush send) := by
  rw [perform_flush, perform_flush]
  simp [hrecords, flushRecords, hsend, Nat.add_assoc, Nat.add_comm 1]

theorem perform_flush_failed {send : Delivery → κ → Except ε Unit × κ} {d : Delivery}
    {rest : List Delivery} {e : ε} {next : κ} (hrecords : u.buffer.records = d :: rest)
    (hsend : send d u.sink = (.error e, next)) :
    u.perform (.flush send) = { u with sink := next } := by
  rw [perform_flush]
  simp only [hrecords, flushRecords, hsend, List.take_zero, List.append_nil, Nat.add_zero]
  rw [← hrecords]

/-- What waits for a store is sent by flushes into it, with a record discarded after each of them
but the last. -/
theorem drainRecords_uses (count : Nat) (ds : List Delivery) (u : InUse σ)
    (hrecords : u.buffer.records = ds) :
    let r := Outbox.drainRecords count ds u.sink
    ∃ retries : Nat, u.run (.flush sendTo :: (List.replicate retries
      [(.discard : Use σ StoreError), .flush sendTo]).flatten) =
        { u with
          buffer := { u.buffer with
            records := r.remaining
            sent := u.buffer.sent + r.sent
            rejected := u.buffer.rejected + r.rejected }
          sink := r.store
          delivered := u.delivered ++ Outbox.acknowledgedOf ds u.sink } := by
  induction ds generalizing count u with
  | nil =>
    refine ⟨0, ?_⟩
    change u.perform (.flush sendTo) = _
    rw [perform_flush]
    simp [hrecords, flushRecords, Outbox.drainRecords, Outbox.acknowledgedOf]
  | cons d rest ih =>
    rcases happ : ContextStore.append 0 d u.sink with ⟨e | ack, next⟩
    · have hsend : sendTo d u.sink = (.error e, next) := by simp [sendTo, happ, Except.map]
      cases he : e.isProtocol with
      | true =>
        obtain ⟨journal, hdrain⟩ := Outbox.drainRecords_refused count rest happ he
        obtain ⟨retries, hrest⟩ := ih 0 { u with
          buffer := { u.buffer with records := rest, rejected := u.buffer.rejected + 1 }
          sink := next } rfl
        refine ⟨retries + 1, ?_⟩
        rw [hdrain, Outbox.acknowledgedOf_refused rest happ he, List.replicate_succ,
          List.flatten_cons]
        have hdiscard : perform { u with sink := next } (.discard : Use σ StoreError) = { u with
            buffer := { u.buffer with records := rest, rejected := u.buffer.rejected + 1 }
            sink := next } := by
          simp only [perform, discardFirst, hrecords]
        simp only [run, List.foldl_cons, List.cons_append, List.nil_append] at hrest ⊢
        rw [perform_flush_failed hrecords hsend, hdiscard, hrest]
        simp [Nat.add_assoc, Nat.add_comm 1]
      | false =>
        obtain ⟨journal, hdrain⟩ := Outbox.drainRecords_stopped count rest happ he
        refine ⟨0, ?_⟩
        rw [hdrain, Outbox.acknowledgedOf_stopped rest happ he]
        change u.perform (.flush sendTo) = _
        rw [perform_flush_failed hrecords hsend]
        simp [← hrecords]
    · have hsend : sendTo d u.sink = (.ok (), next) := by simp [sendTo, happ, Except.map]
      obtain ⟨retries, hrest⟩ := ih (count + 1) { u with
        buffer := { u.buffer with records := rest, sent := u.buffer.sent + 1 }
        sink := next
        delivered := u.delivered ++ [d] } rfl
      refine ⟨retries, ?_⟩
      rw [Outbox.drainRecords_ok count rest happ, Outbox.acknowledgedOf_ok rest happ]
      simp only [run, List.foldl_cons] at hrest ⊢
      rw [perform_flush_taken hrecords hsend, hrest]
      simp [Nat.add_assoc, Nat.add_comm 1]

end InUse

end RetryBuffer

/-- The buffer of an outbox that sends what waits is used so: it is flushed, and again with a record
discarded each time that the store has refused one. -/
theorem Outbox.drain_uses {σ : Type} [ContextStore σ] (o : Outbox σ) :
    ∃ retries : Nat, RetryBuffer.InUse.run (.flush RetryBuffer.sendTo :: (List.replicate retries
      [(.discard : RetryBuffer.Use σ StoreError), .flush RetryBuffer.sendTo]).flatten)
        ⟨o.buffer, o.store, [], 0⟩ =
      ⟨o.drain.2.buffer, o.drain.2.store, acknowledgedOf o.buffer.records o.store, 0⟩ :=
  RetryBuffer.InUse.drainRecords_uses 0 _ _ rfl

namespace RetryBuffer

/-- However a buffer is used, it holds no more than it has room for, and it holds the last of all
records that were ever enqueued. Those that its sinks took are in their order too, each once and
before all that waits. A flush delivers the longest front that its sink takes and leaves the rest; a
record is let go just when one comes to a full buffer. And each record that was enqueued waits or is
counted: as sent, let go, rejected or cleared. -/
theorem buffer_history (capacity : Nat) (sink : κ) (uses : List (Use κ ε)) :
    let u := InUse.run uses ⟨.ofCapacity capacity, sink, [], 0⟩
    let past := uses.filterMap Use.record?
    u.buffer.size ≤ max capacity 1 ∧
      u.buffer.records <:+ past ∧
      (u.delivered ++ u.buffer.records).Sublist past ∧
      (∀ send : Delivery → κ → Except ε Unit × κ, u.Flushes send (u.perform (.flush send))) ∧
      (∀ use : Use κ ε, u.Evicts (max capacity 1) (u.perform use) use) ∧
      u.buffer.enqueued = past.length ∧ u.buffer.sent = u.delivered.length ∧
      u.buffer.enqueued = u.buffer.size + u.buffer.sent + u.buffer.overflow + u.buffer.rejected +
        u.cleared := by
  intro u past
  have hnew : InUse.Accounted (max capacity 1) []
      (⟨.ofCapacity capacity, sink, [], 0⟩ : InUse κ) := by
    refine ⟨rfl, ?_, Nat.zero_le _, List.suffix_refl _, List.Sublist.refl _, rfl, rfl, rfl⟩
    omega
  have h : u.Accounted (max capacity 1) past := hnew.run uses
  refine ⟨h.size, h.suffix, h.order, fun send => InUse.flushes send u, ?_, h.enqueued, h.sent,
    h.total⟩
  intro use
  have hevicts := InUse.evicts use u
  rwa [h.capacity] at hevicts

end RetryBuffer

end SessionRecorder

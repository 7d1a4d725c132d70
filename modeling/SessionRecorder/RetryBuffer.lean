import SessionRecorder.Log
import SessionRecorder.Store.Basic

/-!
The records that wait for their store, oldest first. A full buffer lets the oldest
record go; sending takes records from the front until one fails.
-/

namespace SessionRecorder

structure RetryBuffer where
  /-- The most records that wait; at least one. -/
  capacity : Nat
  records : List Delivery := []
  /-- How many records a full buffer has let go. -/
  overflow : Nat := 0
  rejected : Nat := 0
  enqueued : Nat := 0
  sent : Nat := 0
deriving DecidableEq

namespace RetryBuffer

def ofCapacity (capacity : Nat) : RetryBuffer := { capacity := max capacity 1 }

def size (b : RetryBuffer) : Nat := b.records.length

def isEmpty (b : RetryBuffer) : Bool := b.records.isEmpty

/-- Overflow is reported when it begins, and then at every hundredth record. -/
def reportsOverflow (count : Nat) : Bool := count == 1 || count % 100 == 0

def overflowReport (b : RetryBuffer) : Log.Event :=
  .warn "retry buffer overflow, oldest records dropped"
    [("dropped", toString b.overflow), ("capacity", toString b.capacity)]

def evict (b : RetryBuffer) : RetryBuffer :=
  if b.records.length < b.capacity then b
  else { b with records := b.records.tail, overflow := b.overflow + 1 }

/-- The buffer with one more record at its end, and what there is to report. -/
def enqueue (d : Delivery) (b : RetryBuffer) : RetryBuffer × Log.Journal :=
  let room := b.evict
  let journal :=
    if b.overflow < room.overflow && reportsOverflow room.overflow then [room.overflowReport]
    else []
  ({ room with records := room.records ++ [d], enqueued := room.enqueued + 1 }, journal)

/-- What a sending attempt leaves: how many records were taken, those that remain,
the sink behind it and the error that stopped it. -/
structure Flush (κ ε : Type) where
  sent : Nat
  remaining : List Delivery
  sink : κ
  error : Option ε

def flushRecords {κ ε : Type} (send : Delivery → κ → Except ε Unit × κ) :
    List Delivery → κ → Flush κ ε
  | [], k => ⟨0, [], k, none⟩
  | d :: rest, k =>
    match send d k with
    | (.ok (), k) =>
      let f := flushRecords send rest k
      { f with sent := f.sent + 1 }
    | (.error e, k) => ⟨0, d :: rest, k, some e⟩

/-- Sends from the front until a record fails, which then remains at the front. -/
def flush {κ ε : Type} (send : Delivery → κ → Except ε Unit × κ) (b : RetryBuffer) (k : κ) :
    RetryBuffer × Flush κ ε :=
  let f := flushRecords send b.records k
  ({ b with records := f.remaining, sent := b.sent + f.sent }, f)

def sendTo {σ : Type} [ContextStore σ] (d : Delivery) (store : σ) :
    Except StoreError Unit × σ :=
  let (result, store) := ContextStore.append 0 d store
  (result.map fun _ => (), store)

/-- Takes out the oldest record as one that its store rejects. -/
def discardFirst (b : RetryBuffer) : Option Delivery × RetryBuffer :=
  match b.records with
  | [] => (none, b)
  | d :: rest => (some d, { b with records := rest, rejected := b.rejected + 1 })

def clear (b : RetryBuffer) : RetryBuffer := { b with records := [] }

def text (b : RetryBuffer) : String :=
  s!"RetryBuffer \x7b size: {b.size}, capacity: {b.capacity}, overflow: {b.overflow} \x7d"

theorem records_enqueue (d : Delivery) (b : RetryBuffer) :
    (b.enqueue d).1.records = b.evict.records ++ [d] := rfl

theorem enqueue_of_room (d : Delivery) {b : RetryBuffer} (h : b.records.length < b.capacity) :
    (b.enqueue d).1 = { b with records := b.records ++ [d], enqueued := b.enqueued + 1 } := by
  simp only [enqueue, evict, h, ↓reduceIte]

theorem enqueue_of_full (d : Delivery) {b : RetryBuffer} (h : b.capacity ≤ b.records.length) :
    (b.enqueue d).1 = { b with
      records := b.records.tail ++ [d]
      overflow := b.overflow + 1
      enqueued := b.enqueued + 1 } := by
  simp only [enqueue, evict, Nat.not_lt.2 h, ↓reduceIte]

/-- A buffer that has let nothing go has a new record at its end. -/
theorem enqueue_lossless {d : Delivery} {b : RetryBuffer} (h : (b.enqueue d).1.overflow = 0) :
    b.overflow = 0 ∧ (b.enqueue d).1.records = b.records ++ [d] := by
  by_cases hroom : b.records.length < b.capacity
  · rw [enqueue_of_room d hroom] at h ⊢
    exact ⟨h, rfl⟩
  · rw [enqueue_of_full d (by omega)] at h
    cases h

@[simp] theorem capacity_enqueue (d : Delivery) (b : RetryBuffer) :
    (b.enqueue d).1.capacity = b.capacity := by
  simp only [enqueue, evict]
  split <;> rfl

@[simp] theorem rejected_enqueue (d : Delivery) (b : RetryBuffer) :
    (b.enqueue d).1.rejected = b.rejected := by
  simp only [enqueue, evict]
  split <;> rfl

theorem remaining_flushRecords {κ ε : Type} (send : Delivery → κ → Except ε Unit × κ)
    (ds : List Delivery) (k : κ) :
    (flushRecords send ds k).remaining = ds.drop (flushRecords send ds k).sent := by
  induction ds generalizing k with
  | nil => simp [flushRecords]
  | cons d rest ih =>
    simp only [flushRecords]
    split
    · simpa using ih _
    · simp

theorem sent_flushRecords_le {κ ε : Type} (send : Delivery → κ → Except ε Unit × κ)
    (ds : List Delivery) (k : κ) : (flushRecords send ds k).sent ≤ ds.length := by
  induction ds generalizing k with
  | nil => simp [flushRecords]
  | cons d rest ih =>
    simp only [flushRecords]
    split
    · simpa using ih _
    · simp

end RetryBuffer

end SessionRecorder

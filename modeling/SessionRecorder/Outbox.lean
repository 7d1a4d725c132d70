import SessionRecorder.Record.Item
import SessionRecorder.RetryBuffer

/-!
The way of records into a store. A record goes straight to the store, or waits
behind those that already wait; what waits is sent in order once the store can be
reached again. Records that the store itself refuses are dropped.
-/

namespace SessionRecorder

/-- A store, the records that wait for it, and what there is to report. -/
structure Outbox (σ : Type) where
  store : σ
  buffer : RetryBuffer
  journal : Log.Journal := []

namespace Outbox

variable {σ : Type}

def report (events : Log.Journal) (o : Outbox σ) : Outbox σ :=
  { o with journal := o.journal ++ events }

def postpone (d : Delivery) (o : Outbox σ) : Outbox σ :=
  let (buffer, journal) := o.buffer.enqueue d
  { o with buffer }.report journal

def contextField (d : Delivery) : String × String := ("context_id", toString d.context.toNat)

def typeField (d : Delivery) : String × String := ("type_id", d.type.id)

def errorField (e : StoreError) : String × String := ("error", e.message)

variable [ContextStore σ]

def isConnected (o : Outbox σ) : Bool := ContextStore.isConnected o.store

def waits (o : Outbox σ) : Bool := !o.isConnected || !o.buffer.isEmpty

/-- Delivers a record, or lets it wait. A failure that is not the store's answer
leaves the record waiting. -/
def deliver (d : Delivery) (o : Outbox σ) : Except StoreError Unit × Outbox σ :=
  if o.waits then (.ok (), o.postpone d)
  else
    match ContextStore.append 0 d o.store with
    | (.ok ack, store) =>
      (.ok (), { o with store }.report [.debug "appended"
        [contextField d, ("turn_id", toString ack.turn.toNat), typeField d]])
    | (.error e, store) =>
      let o := { o with store }
      if e.isProtocol then
        (.error e, o.report [.warn "record rejected by CXDB, dropped"
          [contextField d, typeField d, errorField e]])
      else (.error e, o.postpone d)

def submit (context : UInt64) (r : Record) (o : Outbox σ) : Except StoreError Unit × Outbox σ :=
  o.deliver ⟨context, r.type, r.payload.serialize⟩

structure Drain (σ : Type) where
  store : σ
  remaining : List Delivery
  sent : Nat
  rejected : Nat
  journal : Log.Journal

/-- Sends waiting records in order. One that the store refuses is dropped; any
other failure stops the sending. `run` counts the records sent since the last
failure. -/
def drainRecords (run : Nat) : List Delivery → σ → Drain σ
  | [], store => ⟨store, [], 0, 0, []⟩
  | d :: rest, store =>
    match ContextStore.append 0 d store with
    | (.ok _, store) =>
      let r := drainRecords (run + 1) rest store
      { r with sent := r.sent + 1 }
    | (.error e, store) =>
      let stopped := .debug "buffer flush stopped"
        [("sent", toString run), ("remaining", toString (rest.length + 1)), errorField e]
      if e.isProtocol then
        let r := drainRecords 0 rest store
        { r with
          rejected := r.rejected + 1
          journal := stopped :: .warn "buffered record rejected by CXDB, dropped"
            [contextField d, typeField d, errorField e] :: r.journal }
      else ⟨store, d :: rest, 0, 0, [stopped]⟩

/-- Sends what waits, and gives the number of records that were sent. -/
def drain (o : Outbox σ) : Nat × Outbox σ :=
  let r := drainRecords 0 o.buffer.records o.store
  let buffer := { o.buffer with
    records := r.remaining
    sent := o.buffer.sent + r.sent
    rejected := o.buffer.rejected + r.rejected }
  (r.sent, { o with store := r.store, buffer }.report r.journal)

end Outbox

end SessionRecorder

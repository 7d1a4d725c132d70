import SessionRecorder.Bytes.Basic
import SessionRecorder.Catalog
import SessionRecorder.Store.Error

/-!
Stores of contexts: append-only sequences of turns under numeric ids.
-/

namespace SessionRecorder

/-- The last turn of a context, zero if there is none, and the number of turns. -/
structure TurnHead where
  turn : UInt64
  depth : UInt32
deriving DecidableEq

structure ContextHead where
  context : UInt64
  turn : UInt64
  depth : UInt32
deriving DecidableEq

/-- The octets of a record, the type they have and the context they are for. -/
structure Delivery where
  context : UInt64
  type : RecordType
  payload : Bytes
deriving DecidableEq

/-- The calls of a store. Every call gives the store behind it, failed or not. -/
class ContextStore (σ : Type) where
  isConnected : σ → Bool
  /-- The name by which the recorder is known to the store. -/
  clientTag : σ → String
  connect : σ → Except StoreError Unit × σ
  create (base : UInt64) : σ → Except StoreError ContextHead × σ
  /-- A new context whose head is a turn. -/
  fork (base : UInt64) : σ → Except StoreError ContextHead × σ
  head (context : UInt64) : σ → Except StoreError TurnHead × σ
  /-- Appends behind a parent turn, or behind the head if the parent is zero. -/
  append (parent : UInt64) (d : Delivery) : σ → Except StoreError ContextHead × σ
  close : σ → σ

end SessionRecorder

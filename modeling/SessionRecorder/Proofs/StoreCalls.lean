import SessionRecorder.Store.Basic

/-!
The calls of a store as data. A run is a list of them, each made on the store that the one
before it left.
-/

namespace SessionRecorder

/-- One call of a store. -/
inductive StoreCall where
  | connect
  | close
  | create (base : UInt64)
  | fork (base : UInt64)
  | head (context : UInt64)
  | append (parent : UInt64) (d : Delivery)
deriving DecidableEq

/-- What a call gives where it succeeds. -/
inductive StoreAnswer where
  | nothing
  | context (head : ContextHead)
  | turn (head : TurnHead)
deriving DecidableEq

namespace StoreCall

/-- Whether the call asks the store for something, over a connection that is there. -/
def isRequest : StoreCall → Bool
  | connect | close => false
  | create _ | fork _ | head _ | append .. => true

section

variable {σ : Type} [ContextStore σ]

/-- Makes the call. -/
def perform (call : StoreCall) (s : σ) : Except StoreError StoreAnswer × σ :=
  match call with
  | connect =>
    let (result, s) := ContextStore.connect s
    (result.map fun _ => .nothing, s)
  | close => (.ok .nothing, ContextStore.close s)
  | create base =>
    let (result, s) := ContextStore.create base s
    (result.map .context, s)
  | fork base =>
    let (result, s) := ContextStore.fork base s
    (result.map .context, s)
  | head context =>
    let (result, s) := ContextStore.head context s
    (result.map .turn, s)
  | append parent d =>
    let (result, s) := ContextStore.append parent d s
    (result.map .context, s)

/-- The store after a run. -/
def run (calls : List StoreCall) (s : σ) : σ :=
  calls.foldl (fun s call => (perform call s).2) s

/-- The calls of a run with their results. -/
def results : List StoreCall → σ → List (StoreCall × Except StoreError StoreAnswer)
  | [], _ => []
  | call :: rest, s => (call, (call.perform s).1) :: results rest (call.perform s).2

/-- What holds at the start and is kept by every call holds after every run. -/
theorem run_keeps {P : σ → Prop} (hstep : ∀ (call : StoreCall) s, P s → P (call.perform s).2)
    (calls : List StoreCall) {s : σ} (h : P s) : P (run calls s) := by
  induction calls generalizing s with
  | nil => exact h
  | cons call rest ih => exact ih (hstep call s h)

end

end StoreCall

end SessionRecorder

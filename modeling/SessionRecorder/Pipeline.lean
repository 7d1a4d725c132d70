import SessionRecorder.Deduplicator
import SessionRecorder.Turn.Accumulator

/-!
What the recorder makes of the events of a session: which of them are recorded,
and when a turn is complete. No store has a part in this.
-/

namespace SessionRecorder

inductive Decision where
  | dropped
  /-- It is recorded, and then the turn that it completes, if there is one. -/
  | recorded (finished : Option Turn)
deriving DecidableEq

structure Pipeline where
  dedup : Deduplicator
  turns : Accumulator
deriving DecidableEq

namespace Pipeline

/-- The event that ends a cycle, and with it a turn. -/
def cycleEnd : String := "orchestrator:complete"

def observe (now : Nat) (event : String) (data : Json) (turns : Accumulator) : Accumulator :=
  if Signal.events.contains event then (turns.onEvent now event data).2 else turns

/-- The decision about an event, and the state behind it. A poorer variant and a
straggler are dropped. The end of a cycle flushes the turn and forgets the variants
seen. -/
def step (now : Nat) (event : String) (data : Json) (p : Pipeline) : Decision × Pipeline :=
  let (accepted, dedup) := p.dedup.accept event
  if !accepted || p.turns.isStraggler event then (.dropped, { p with dedup })
  else
    let turns := observe now event data p.turns
    if event = cycleEnd then
      let (finished, turns) := turns.flush
      (.recorded finished, ⟨dedup.reset, turns⟩)
    else (.recorded none, ⟨dedup, turns⟩)

end Pipeline

end SessionRecorder

import SessionRecorder.Assoc
import SessionRecorder.Catalog
import SessionRecorder.Settings.Basic

/-!
Of an event's variants only one is recorded: the richest known one, or each one
that is richer than those seen since the cycle began.
-/

namespace SessionRecorder

inductive Deduplicator where
  /-- The accepted name for the base name of each family that is known. -/
  | precomputed (best : List (String × String))
  /-- The highest rank accepted in this cycle, by base name. -/
  | highWaterMark (seen : List (String × Nat))
deriving DecidableEq

namespace Deduplicator

def keepRicher (best : List (String × String)) (event : String) : List (String × String) :=
  if Catalog.hasVariants event then
    let base := Catalog.base event
    match Assoc.find? base best with
    | some other =>
      if Catalog.rank other < Catalog.rank event then Assoc.insert base event best else best
    | none => Assoc.insert base event best
  else best

/-- Accepts of each family the richest of the known events. -/
def ofKnown (known : List String) : Deduplicator := .precomputed (known.foldl keepRicher [])

def ofMode (mode : DedupMode) (known : List String) : Deduplicator :=
  match mode with
  | .precomputed => ofKnown known
  | .highWaterMark => .highWaterMark []

def accept (event : String) (d : Deduplicator) : Bool × Deduplicator :=
  if Catalog.hasVariants event then
    let base := Catalog.base event
    match d with
    | .precomputed best =>
      match Assoc.find? base best with
      | some name => (name == event, d)
      | none => (true, d)
    | .highWaterMark seen =>
      let rank := Catalog.rank event
      match Assoc.find? base seen with
      | some high =>
        if rank ≤ high then (false, d) else (true, .highWaterMark (Assoc.insert base rank seen))
      | none => (true, .highWaterMark (Assoc.insert base rank seen))
  else (true, d)

def reset : Deduplicator → Deduplicator
  | .precomputed best => .precomputed best
  | .highWaterMark _ => .highWaterMark []

theorem accept_plain {event : String} (h : Catalog.hasVariants event = false)
    (d : Deduplicator) : d.accept event = (true, d) := by
  simp only [accept, h, Bool.false_eq_true, ↓reduceIte]

/-- No event has a part in the state at the start of a cycle. -/
theorem reset_accept (event : String) (d : Deduplicator) :
    (d.accept event).2.reset = d.reset := by
  cases hvariants : Catalog.hasVariants event with
  | false => rw [accept_plain hvariants]
  | true =>
    cases d with
    | precomputed best =>
      simp only [accept, hvariants, ↓reduceIte]
      split <;> rfl
    | highWaterMark seen =>
      simp only [accept, hvariants, ↓reduceIte]
      split
      · split <;> rfl
      · rfl

@[simp] theorem reset_ofMode (mode : DedupMode) (known : List String) :
    (ofMode mode known).reset = ofMode mode known := by
  cases mode <;> rfl

end Deduplicator

end SessionRecorder

import SessionRecorder.Proofs.Conformance
import SessionRecorder.Proofs.Ledger

/-!
Whether the records of events are as the published bundle describes them. They are just where
the time of the event is not negative and its data, if there is any, is an object: other data is
recorded as it is, under a tag that the bundle declares to hold a map (`list_undescribed`). Main
statement: `event_described_iff`.
-/

namespace SessionRecorder

/-- What is recorded of the data of an event is a map, unless the data is of another kind than an
object. -/
theorem eventData_admits_iff (data : Json) :
    (∀ d, Envelope.eventData data = some d → Shape.anyMap.admits (.ofJson d) = true) ↔
      data = .null ∨ ∃ members, data = .object members := by
  cases data with
  | null => simp [Envelope.eventData]
  | object members =>
    simp only [Envelope.eventData]
    split <;> simp [Msgpack.ofJson]
  | _ => simp [Envelope.eventData, Msgpack.ofJson, Shape.admits]

theorem envelope_admits_iff (size : UInt64) (event : String) (data : Json) (l : Lineage)
    (time : Int64) :
    (Shape.map Bundle.envelope).admits (Envelope.withSize size event data l time).toMap = true ↔
      0 ≤ time ∧ (data = .null ∨ ∃ members, data = .object members) := by
  rw [Envelope.withSize, admits_ofFields (by decide) rfl]
  simp [Bundle.envelope, Bundle.required, Bundle.optional, eventData_admits_iff]

/-- The bundle describes the record of an event just if the time of the event is not negative and
its data is an object or null. -/
theorem event_described_iff (shape : RecordShape) (event : String) (data : Json) (l : Lineage)
    (time : Int64) :
    Bundle.describes (Record.ofEvent shape event data l time) = true ↔
      0 ≤ time ∧ (data = .null ∨ ∃ members, data = .object members) := by
  cases shape with
  | envelope =>
    rw [Record.ofEvent, Catalog.recordType, Bundle.describes_event]
    exact envelope_admits_iff _ event data l time
  | conversationItem =>
    rw [Record.ofEvent, Bundle.describes_item]
    obtain ⟨title, content, hitem⟩ : ∃ title content, Item.ofEvent event data l time =
        Item.complete "system" l.sessionId event time (Item.parts none none
          (some (Item.systemPart (.ofEvent event) title content))
          (some (Envelope.ofEvent event data l time).toMap) none) := ⟨_, _, rfl⟩
    have henvelope := envelope_admits_iff
      (.ofNat (Envelope.withSize 0 event data l time).serialize.length) event data l time
    rw [← Envelope.ofEvent] at henvelope
    rw [hitem, item_admits_iff]
    simp only [Option.some.injEq, forall_eq', reduceCtorEq, false_implies, implies_true,
      systemPart_admits, henvelope, true_and, and_true]
    exact and_self_left

/-- A list as data is recorded under a tag that is declared to hold a map. -/
theorem list_undescribed :
    Bundle.describes (Record.ofEvent .envelope "tool:pre" (.array []) Sample.lineage 0) = false ∧
      (0 : Int64) ≤ 0 := by
  decide +kernel

end SessionRecorder

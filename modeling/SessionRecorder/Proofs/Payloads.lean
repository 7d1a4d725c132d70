import SessionRecorder.Payload
import SessionRecorder.Proofs.Msgpack.Locality
import SessionRecorder.Proofs.Msgpack.Written

/-!
The octets of a payload are a prefix code: they give the payload back whatever follows
them, no part of them is taken for a payload, and they are the same only for payloads
with the same value under every tag. Main statement: `serialize_round_trip`.
-/

namespace SessionRecorder.Payload

/-- Whether the payload's strings are text, its lengths have fields and its nesting is within
the budget of one reading. -/
def Readable (p : Payload) : Prop :=
  p.toMap.fits = true ∧ p.toMap.cost ≤ Msgpack.depthBudget

instance (p : Payload) : Decidable p.Readable := inferInstanceAs (Decidable (_ ∧ _))

theorem ext_get? {p q : Payload} (h : ∀ tag, p.get? tag = q.get? tag) : p = q :=
  Payload.ext (p.ascending.ext q.ascending h)

theorem ofEntries?_map_uint (entries : List (UInt64 × Msgpack)) :
    ofEntries? (entries.map fun (tag, value) => (Msgpack.uint tag, value)) = .ok entries := by
  induction entries with
  | nil => rfl
  | cons e rest ih =>
    rw [List.map_cons, ofEntries?, Msgpack.asUInt?_uint, ih]
    rfl

theorem ofBytes_serialize_append {p : Payload} (h : p.Readable) (rest : Bytes) :
    Msgpack.ofBytes (p.serialize ++ rest) = .ok p.toMap := by
  rw [Msgpack.ofBytes, serialize, Msgpack.read_write p.toMap h.1 h.2 rest]
  rfl

theorem deserialize_serialize_append {p : Payload} (h : p.Readable) (rest : Bytes) :
    deserialize (p.serialize ++ rest) = .ok p := by
  rw [deserialize, ofBytes_serialize_append h]
  change (ofEntries? _).map ofList = _
  rw [ofEntries?_map_uint]
  exact congrArg Except.ok (ofList_entries p)

theorem serialize_injective {p q : Payload} (hp : p.Readable) (hq : q.Readable)
    (h : p.serialize = q.serialize) : p = q := by
  have hread := deserialize_serialize_append hp []
  rw [h, deserialize_serialize_append hq] at hread
  exact (Except.ok.inj hread).symm

/-- Octets that another payload's octets begin with and go beyond are no payload. -/
theorem deserialize_of_prefix {p : Payload} (h : p.Readable) {part : Bytes}
    (hpart : part <+: p.serialize) (hproper : part ≠ p.serialize) :
    ∃ detail, deserialize part = .error (.decode detail) := by
  cases hread : Msgpack.read Msgpack.depthBudget part with
  | error e => exact ⟨e.message, by rw [deserialize, Msgpack.ofBytes, hread]; rfl⟩
  | ok result =>
    obtain ⟨v, left⟩ := result
    obtain ⟨missing, hmissing⟩ := hpart
    -- The value read from the part would leave the missing octets over.
    have hpartial := Msgpack.local_read _ _ _ _ hread missing
    have hwhole := Msgpack.read_write p.toMap h.1 h.2 []
    rw [List.append_nil, ← serialize, ← hmissing, hpartial] at hwhole
    have hnothing : left ++ missing = [] := congrArg Prod.snd (Except.ok.inj hwhole)
    obtain ⟨-, rfl⟩ := List.append_eq_nil_iff.1 hnothing
    exact absurd (by rw [← hmissing, List.append_nil]) hproper

/-- Payloads that can be read are given back by their octets, whatever follows; a proper part of
the octets fails to decode; and equal octets mean the same value under every tag, in whatever
order the tags were given. -/
theorem serialize_round_trip (p q : Payload) (hp : p.Readable) (hq : q.Readable) :
    (∀ rest, deserialize (p.serialize ++ rest) = .ok p) ∧
    (∀ part, part <+: p.serialize → part ≠ p.serialize →
      ∃ detail, deserialize part = .error (.decode detail)) ∧
    (p.serialize = q.serialize → p = q) ∧
    (p.serialize = q.serialize ↔ ∀ tag, p.get? tag = q.get? tag) := by
  refine ⟨deserialize_serialize_append hp, fun part => deserialize_of_prefix hp,
    serialize_injective hp hq, fun h tag => ?_, fun h => ?_⟩
  · rw [serialize_injective hp hq h]
  · rw [ext_get? h]

namespace Sample

def nested : List (UInt64 × Msgpack) :=
  [(0xFFFFFFFFFFFFFFFF, .map [(.str "é", .sint (-129)), (.str "é", .bin [0, 255])]),
    (3, .float64 ⟨0x7FF8000000000001⟩),
    (1, .array [.ext (-2) [1, 2, 3], .float32 ⟨0x80000000⟩, .nil, .uint 0x8000000000000000]),
    (200, .map [(.array [.map []], .bool true)])]

end Sample

theorem nested_round_trip :
    (ofList Sample.nested).Readable ∧ (ofList Sample.nested.reverse).Readable ∧
    deserialize ((ofList Sample.nested).serialize ++ [0xC1]) = .ok (ofList Sample.nested) ∧
    (∃ detail, deserialize ((ofList Sample.nested).serialize.take 30) = .error (.decode detail)) ∧
    (ofList Sample.nested).serialize = (ofList Sample.nested.reverse).serialize := by
  have hp : (ofList Sample.nested).Readable := by decide
  have hq : (ofList Sample.nested.reverse).Readable := by decide
  obtain ⟨hread, hpart, -, hbytes⟩ := serialize_round_trip _ _ hp hq
  exact ⟨hp, hq, hread [0xC1], hpart _ (List.take_prefix ..) (by decide), hbytes.2 fun _ => rfl⟩

end SessionRecorder.Payload

import SessionRecorder.Proofs.EventPayloads
import SessionRecorder.Proofs.Msgpack.Canonical

/-!
Octets that were read as a payload, in whatever form, and the octets that the payload is written as.
Those can be read, and are written again; and what is read from them is the payload, but for strings
that are not text. Main statement: `deserialize_canonical`.
-/

namespace SessionRecorder.Payload

open Msgpack

variable {p : Payload}

/-- The payload with binary data in the place of strings that are not text. -/
def plain (p : Payload) : Payload :=
  ⟨p.entries.map fun e : UInt64 × Msgpack => (e.1, e.2.plain), List.pairwise_map.2 p.ascending⟩

theorem toMap_plain (p : Payload) : p.plain.toMap = p.toMap.plain := by
  unfold toMap Payload.plain
  rw [Msgpack.plain, plainEntries_eq_map, List.map_map, List.map_map]
  rfl

theorem serialize_plain (p : Payload) : p.plain.serialize = p.serialize := by
  rw [serialize, toMap_plain, write_plain, serialize]

theorem tags_plain (p : Payload) : p.plain.tags = p.tags := by
  unfold tags Payload.plain
  rw [List.map_map]
  rfl

theorem plain_of_textual (h : p.Textual) : p.plain = p :=
  toMap_injective ((toMap_plain p).trans (Msgpack.plain_of_textual p.toMap h))

/-- The values that are read are those of the map, in their order. -/
theorem ofEntries?_values {entries : List (Msgpack × Msgpack)} {tagged : List (UInt64 × Msgpack)}
    (h : ofEntries? entries = .ok tagged) : tagged.map (·.2) = entries.map (·.2) := by
  induction entries generalizing tagged with
  | nil =>
    cases h
    rfl
  | cons e rest ih =>
    obtain ⟨key, value⟩ := e
    rw [ofEntries?] at h
    split at h
    · cases hrest : ofEntries? rest with
      | error e =>
        rw [hrest] at h
        cases h
      | ok others =>
        rw [hrest] at h
        cases h
        rw [List.map_cons, List.map_cons, ih hrest]
    · cases h

/-- A payload that was read has its values from a map that was read. -/
theorem exists_map_of_deserialize {bs : Bytes} (h : deserialize bs = .ok p) :
    ∃ entries rest, Msgpack.read depthBudget bs = .ok (.map entries, rest) ∧
      p.entries.length ≤ entries.length ∧ ∀ e ∈ p.entries, ∃ key, (key, e.2) ∈ entries := by
  unfold deserialize ofBytes at h
  rcases hread : Msgpack.read depthBudget bs with e | ⟨v, rest⟩
  · rw [hread] at h
    cases h
  · rw [hread] at h
    cases v with
    | map entries =>
      change (ofEntries? entries).map ofList = _ at h
      cases hentries : ofEntries? entries with
      | error e =>
        rw [hentries] at h
        cases h
      | ok tagged =>
        rw [hentries] at h
        cases h
        have hvalues := ofEntries?_values hentries
        refine ⟨entries, rest, rfl, ?_, fun e he => ?_⟩
        · have hlength := congrArg List.length hvalues
          rw [List.length_map, List.length_map] at hlength
          exact hlength ▸ Assoc.length_ofList_le tagged
        · have hmem : e.2 ∈ entries.map (·.2) :=
            hvalues ▸ List.mem_map_of_mem (Assoc.mem_ofList he)
          obtain ⟨⟨key, value⟩, hentry, hvalue⟩ := List.mem_map.1 hmem
          exact ⟨key, hvalue ▸ hentry⟩
    | _ => cases h

theorem readable_plain {bs : Bytes} (h : deserialize bs = .ok p) : p.plain.Readable := by
  obtain ⟨entries, rest, hread, hlength, hvalues⟩ := exists_map_of_deserialize h
  have hmap : (map (plainEntries entries)).Within (1022 + 2) := gives_read _ bs _ rest hread
  rw [plainEntries_eq_map, within_map_iff, List.length_map] at hmap
  have hpayload : p.plain.toMap.Within (1022 + 2) := by
    refine within_map_iff.2 ⟨?_, ?_⟩
    · rw [List.length_map, Payload.plain, List.length_map]
      exact Nat.lt_of_le_of_lt hlength hmap.1
    · refine List.forall_mem_map.2 (List.forall_mem_map.2 fun e he => ?_)
      refine ⟨within_int _ (by decide), ?_⟩
      obtain ⟨key, hentry⟩ := hvalues e he
      exact (List.forall_mem_map.1 hmap.2 _ hentry).2
  exact hpayload

/-- A payload that was read from any octets can be read from its own. What is read from them is its
plain form, which has the same tags and octets and is the payload itself where every string in it is
text. -/
theorem deserialize_canonical {bs : Bytes} (h : deserialize bs = .ok p) :
    deserialize p.serialize = .ok p.plain ∧ p.plain.tags = p.tags ∧
      p.plain.serialize = p.serialize ∧ (p.Textual → p.plain = p) := by
  refine ⟨?_, tags_plain p, serialize_plain p, plain_of_textual⟩
  have hread := deserialize_serialize_append (readable_plain h) []
  rwa [List.append_nil, serialize_plain] at hread

namespace Sample

/-- Four entries with wide lengths and numbers, one tag twice, the reserved octet, a string that is
not text, and an octet behind the map. -/
def loose : Bytes :=
  [0xDE, 0, 4, 0xCD, 0, 1, 0xC1, 1, 0xD9, 1, 0x61, 0xD1, 0, 2, 0xA1, 0xFF,
    3, 0xDC, 0, 1, 0xD3, 0, 0, 0, 0, 0, 0, 0, 5, 0x99]

def mixed : Payload :=
  ofList [(1, .str "a"), (2, .badStr [0xFF]), (3, .array [.uint 5])]

end Sample

set_option maxRecDepth 4000 in
/-- The octets that are not text come back as octets of no kind. -/
theorem loose_canonical : deserialize Sample.loose = .ok Sample.mixed ∧
    Sample.mixed.serialize = [0x83, 1, 0xA1, 0x61, 2, 0xC4, 1, 0xFF, 3, 0x91, 5] ∧
    deserialize Sample.mixed.serialize =
      .ok (ofList [(1, .str "a"), (2, .bin [0xFF]), (3, .array [.uint 5])]) := by
  have hread : deserialize Sample.loose = .ok Sample.mixed := rfl
  exact ⟨hread, by decide, (deserialize_canonical hread).1⟩

end SessionRecorder.Payload

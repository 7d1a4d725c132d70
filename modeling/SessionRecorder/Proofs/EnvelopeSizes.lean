import SessionRecorder.Proofs.EventReadBack

/-!
How long the envelope of an event is. Its size is taken with zero under the size tag, before the
size itself is known, and a number takes the more octets the larger it is. So the length goes
beyond the recorded size by just what the size takes beyond one octet. Main statement:
`size_stamp_exact`.
-/

namespace SessionRecorder

open Msgpack

/-- A value that takes the place of another one leaves the entries around it as they are. -/
theorem Assoc.Ascending.exists_insert_of_find? {κ ν : Type} [Ord κ] [Std.LawfulEqOrd κ]
    [Std.TransOrd κ] {k : κ} {v : ν} {m : List (κ × ν)} (h : Ascending m)
    (hk : find? k m = some v) (w : ν) :
    ∃ below above, m = below ++ (k, v) :: above ∧ insert k w m = below ++ (k, w) :: above := by
  induction m with
  | nil => cases hk
  | cons e rest ih =>
    obtain ⟨l, u⟩ := e
    cases hkl : compare k l with
    | lt =>
      rw [h.find?_of_lt hkl] at hk
      cases hk
    | eq =>
      obtain rfl := Std.LawfulEqCmp.eq_of_compare hkl
      rw [find?_cons_self] at hk
      obtain rfl := Option.some.inj hk
      exact ⟨[], rest, rfl, by rw [insert, hkl]; rfl⟩
    | gt =>
      rw [find?, hkl] at hk
      obtain ⟨below, above, hrest, hinsert⟩ := ih (List.pairwise_cons.1 h).2 hk
      exact ⟨(l, u) :: below, above, by rw [hrest]; rfl, by rw [insert, hkl, hinsert]; rfl⟩

/-! ## Lengths of what is written -/

/-- The octets of a number that is not negative, by its size. -/
theorem Msgpack.length_write_uint (n : UInt64) : (uint n).write.length =
    if n.toNat < 2 ^ 7 then 1 else if n.toNat < 2 ^ 8 then 2 else if n.toNat < 2 ^ 16 then 3
    else if n.toNat < 2 ^ 32 then 5 else 9 := by
  have hval : (WordInt.ofUInt64 n).val = (n.toNat : Int) := rfl
  rw [uint, write, writeInt, hval, if_pos (Int.natCast_nonneg _), Int.toNat_natCast]
  simp only [apply_ite List.length, List.length_cons, List.length_nil, Bytes.length_ofNatBE]

/-- A value in place of another one makes a payload longer by what it is longer itself. -/
theorem Payload.length_serialize_insert {p : Payload} {tag : UInt64} {old : Msgpack}
    (h : p.get? tag = some old) (value : Msgpack) :
    (p.insert tag value).serialize.length + old.write.length =
      p.serialize.length + value.write.length := by
  obtain ⟨below, above, hentries, hinsert⟩ := p.ascending.exists_insert_of_find? h value
  have hchanged : (p.insert tag value).entries = below ++ (tag, value) :: above := hinsert
  simp only [serialize, toMap, hentries, hchanged, write, writeEntries_append, writeEntries,
    List.map_append, List.map_cons, List.length_append, List.length_map, List.length_cons]
  omega

namespace Envelope

variable {event : String} {data : Json} {l : Lineage} {time : Int64}

theorem get?_withSize (size : UInt64) (tag : UInt64) :
    (withSize size event data l time).get? tag = (List.lookup tag [
      (eventTag, some (.str event)), (sessionTag, some (.str l.sessionId)),
      (parentTag, l.parentId.map .str), (timestampTag, some (.sint time)),
      (agentTag, l.agent.map .str), (sizeTag, some (.uint size)),
      (dataTag, (eventData data).map .ofJson), (rootTag, some (.str l.rootId))]).join :=
  Payload.get?_ofFields (by simp only [List.map_cons, List.map_nil]; decide) tag

theorem get?_sizeTag_withSize (size : UInt64) :
    (withSize size event data l time).get? sizeTag = some (.uint size) :=
  get?_withSize size sizeTag

/-- The size stands under its own tag alone. -/
theorem get?_withSize_of_ne {tag : UInt64} (h : tag ≠ sizeTag) (size other : UInt64) :
    (withSize size event data l time).get? tag = (withSize other event data l time).get? tag := by
  simp only [get?_withSize, List.lookup_cons, beq_false_of_ne h]

theorem insert_sizeTag_withSize (size other : UInt64) :
    (withSize size event data l time).insert sizeTag (.uint other) =
      withSize other event data l time := by
  refine Payload.ext_get? fun tag => ?_
  by_cases htag : tag = sizeTag
  · rw [htag, Payload.get?_insert_self, get?_sizeTag_withSize]
  · rw [Payload.get?_insert_of_ne _ (Ne.symm htag), get?_withSize_of_ne htag]

/-- An envelope is longer than with size zero by what its size takes beyond one octet. -/
theorem length_serialize_withSize (size : UInt64) :
    (withSize size event data l time).serialize.length + 1 =
      (withSize 0 event data l time).serialize.length + (uint size).write.length := by
  have h := Payload.length_serialize_insert
    (@get?_sizeTag_withSize event data l time 0) (.uint size)
  rwa [insert_sizeTag_withSize] at h

end Envelope

/-- The size of an envelope is the length of the same envelope with zero in its place, which the
first of the two passes writes; under the other tags both passes have the same. The envelope
itself is longer than that by none, one, two or four octets. -/
theorem size_stamp_exact (event : String) (data : Json) (l : Lineage) (time : Int64)
    (hlength : (Envelope.ofEvent event data l time).serialize.length < 2 ^ 32) :
    let envelope := Envelope.ofEvent event data l time
    let blank := Envelope.withSize 0 event data l time
    ∃ size : UInt64, envelope.get? Envelope.sizeTag = some (.uint size) ∧
      envelope.insert Envelope.sizeTag (.uint 0) = blank ∧
      size.toNat = blank.serialize.length ∧ size.toNat < 2 ^ 32 ∧
      envelope.serialize.length = size.toNat +
        (if size.toNat < 128 then 0 else if size.toNat < 256 then 1
          else if size.toNat < 65536 then 2 else 4) ∧
      ∀ tag, tag ≠ Envelope.sizeTag → envelope.get? tag = blank.get? tag := by
  intro envelope blank
  let size := UInt64.ofNat blank.serialize.length
  have hextra : envelope.serialize.length + 1 =
      blank.serialize.length + (uint size).write.length := Envelope.length_serialize_withSize size
  rw [length_write_uint] at hextra
  -- The envelope is not shorter than what was measured, so the size has a field.
  have hmeasured : blank.serialize.length < 2 ^ 32 := by
    have hlong : envelope.serialize.length < 2 ^ 32 := hlength
    split_ifs at hextra <;> omega
  have hsize : size.toNat = blank.serialize.length :=
    UInt64.toNat_ofNat_of_lt' (Nat.lt_trans hmeasured (by decide))
  refine ⟨size, Envelope.get?_sizeTag_withSize size, Envelope.insert_sizeTag_withSize size 0,
    hsize, hsize ▸ hmeasured, ?_, fun tag htag => Envelope.get?_withSize_of_ne htag size 0⟩
  rw [hsize] at hextra ⊢
  split_ifs at hextra ⊢ <;> omega

/-- An envelope of 256 octets with size zero, where a size of one octet more is due. -/
theorem size_of_two_octets :
    let text := String.ofList (List.replicate 217 'a')
    let envelope := Envelope.ofEvent "artifact:write" (.object [("content", .string text)])
      (.ofIds "s" none none) 0
    envelope.serialize.length < 2 ^ 32 ∧ envelope.get? Envelope.sizeTag = some (.uint 256) ∧
    envelope.serialize.length = 258 := by
  intro text envelope
  have hlength : envelope.serialize.length < 2 ^ 32 := by decide +kernel
  obtain ⟨size, hstamp, -, hsize, -, htotal, -⟩ := size_stamp_exact "artifact:write"
    (.object [("content", .string text)]) (.ofIds "s" none none) 0 hlength
  have hmeasured : size = 256 :=
    UInt64.toNat_inj.1 (hsize.trans (by decide +kernel))
  subst hmeasured
  exact ⟨hlength, hstamp, htotal⟩

end SessionRecorder

import SessionRecorder.Wire.Append

/-!
Frames as they are read back: a header and a frame can be read where they begin,
whatever follows them.
-/

namespace SessionRecorder

open Bytes

namespace Bytes

/-- A field that stands behind `offset` octets. -/
theorem fieldLE_between {front field rest : Bytes} {offset width : Nat}
    (hfront : front.length = offset) (hfield : field.length = width) :
    fieldLE offset width (front ++ (field ++ rest)) = toNatLE field := by
  subst hfront hfield
  simp [fieldLE]

theorem fieldLE_ofNatLE (front rest : Bytes) {offset width n : Nat}
    (hfront : front.length = offset) (hn : n < 256 ^ width) :
    fieldLE offset width (front ++ (ofNatLE width n ++ rest)) = n := by
  rw [fieldLE_between hfront (length_ofNatLE width n), toNatLE_ofNatLE, Nat.mod_eq_of_lt hn]

theorem fieldLE_append {bs : Bytes} {offset width : Nat} (h : offset + width ≤ bs.length)
    (rest : Bytes) : fieldLE offset width (bs ++ rest) = fieldLE offset width bs := by
  have hlength : width ≤ (bs.drop offset).length := by
    rw [List.length_drop]
    omega
  rw [fieldLE, List.drop_append_of_le_length (by omega), List.take_append_of_le_length hlength,
    fieldLE]

theorem fieldLE_take {bs : Bytes} {offset width n : Nat} (h : offset + width ≤ n)
    (hn : n ≤ bs.length) : fieldLE offset width (bs.take n) = fieldLE offset width bs := by
  have hlength : offset + width ≤ (bs.take n).length := by
    rw [List.length_take]
    omega
  rw [← fieldLE_append hlength (bs.drop n), List.take_append_drop]

theorem fieldLE_lt (offset width : Nat) (bs : Bytes) : fieldLE offset width bs < 256 ^ width :=
  Nat.lt_of_lt_of_le (toNatLE_lt _)
    (Nat.pow_le_pow_right (by decide) (List.length_take_le _ _))

/-- A word that a field at the front holds is written there. -/
theorem ofNat_fieldLE_eq_iff {bs : Bytes} (h : 8 ≤ bs.length) (n : UInt64) :
    UInt64.ofNat (fieldLE 0 8 bs) = n ↔ ∃ rest, bs = ofNatLE 8 n.toNat ++ rest := by
  have hlength : (bs.take 8).length = 8 := List.length_take_of_le h
  have hfield : fieldLE 0 8 bs = toNatLE (bs.take 8) := rfl
  constructor
  · rintro rfl
    have hlt := toNatLE_lt (bs.take 8)
    rw [hlength] at hlt
    have hwritten := ofNatLE_toNatLE (bs.take 8)
    rw [hlength] at hwritten
    refine ⟨bs.drop 8, ?_⟩
    rw [hfield, UInt64.toNat_ofNat', Nat.mod_eq_of_lt hlt, hwritten, List.take_append_drop]
  · rintro ⟨rest, rfl⟩
    rw [hfield, List.take_left' (length_ofNatLE 8 _), toNatLE_ofNatLE,
      Nat.mod_eq_of_lt n.toNat_lt, UInt64.ofNat_toNat]

end Bytes

namespace Wire

@[simp] theorem Header.length_encode (h : Header) : h.encode.length = headerSize := by
  simp [Header.encode, headerSize]

theorem Header.decode_append (h : Header) (rest : Bytes) :
    Header.decode (h.encode ++ rest) = .ok h := by
  have hlength : ¬ (h.encode ++ rest).length < headerSize := by
    simp only [List.length_append, Header.length_encode]
    omega
  let lengthField := ofNatLE 4 h.payloadLength.toNat
  let typeField := ofNatLE 2 h.messageType.toNat
  let flagsField := ofNatLE 2 h.flags.toNat
  have hpayload : fieldLE 0 4 (h.encode ++ rest) = h.payloadLength.toNat := by
    simpa [Header.encode] using
      fieldLE_ofNatLE [] (typeField ++ flagsField ++ ofNatLE 8 h.requestId.toNat ++ rest) rfl
        h.payloadLength.toNat_lt
  have htype : fieldLE 4 2 (h.encode ++ rest) = h.messageType.toNat := by
    simpa [Header.encode] using
      fieldLE_ofNatLE lengthField (flagsField ++ ofNatLE 8 h.requestId.toNat ++ rest)
        (by simp [lengthField]) h.messageType.toNat_lt
  have hflags : fieldLE 6 2 (h.encode ++ rest) = h.flags.toNat := by
    simpa [Header.encode] using
      fieldLE_ofNatLE (lengthField ++ typeField) (ofNatLE 8 h.requestId.toNat ++ rest)
        (by simp [lengthField, typeField]) h.flags.toNat_lt
  have hid : fieldLE 8 8 (h.encode ++ rest) = h.requestId.toNat := by
    simpa [Header.encode] using
      fieldLE_ofNatLE (lengthField ++ typeField ++ flagsField) rest
        (by simp [lengthField, typeField, flagsField]) h.requestId.toNat_lt
  simp only [Header.decode, hlength, ↓reduceIte, hpayload, htype, hflags, hid,
    UInt32.ofNat_toNat, UInt16.ofNat_toNat, UInt64.ofNat_toNat]

/-- A header is in the first octets of what it stands in front of. -/
theorem Header.decode_take {bs : Bytes} (h : headerSize ≤ bs.length) :
    Header.decode (bs.take headerSize) = .ok {
      payloadLength := .ofNat (fieldLE 0 4 bs)
      messageType := .ofNat (fieldLE 4 2 bs)
      flags := .ofNat (fieldLE 6 2 bs)
      requestId := .ofNat (fieldLE 8 8 bs) } := by
  have hlength : ¬ (bs.take headerSize).length < headerSize := by
    rw [List.length_take]
    omega
  rw [Header.decode, if_neg hlength, fieldLE_take (by decide) h, fieldLE_take (by decide) h,
    fieldLE_take (by decide) h, fieldLE_take (by decide) h]

namespace Frame

/-- The header of a frame. -/
def header (f : Frame) : Header :=
  ⟨UInt32.ofNat f.payload.length, f.messageType, f.flags, f.requestId⟩

theorem encode_eq (f : Frame) : f.encode = f.header.encode ++ f.payload := rfl

theorem header_length {f : Frame} (h : f.payload.length < 2 ^ 32) :
    f.header.payloadLength.toNat = f.payload.length := by
  simp only [header, UInt32.toNat_ofNat']
  exact Nat.mod_eq_of_lt h

@[simp] theorem length_encode (f : Frame) :
    f.encode.length = headerSize + f.payload.length := by
  simp [encode_eq]

theorem decode_append {f : Frame} (h : f.payload.length < 2 ^ 32) (rest : Bytes) :
    Frame.decode (f.encode ++ rest) = .ok f := by
  have hlength : ¬ (f.encode ++ rest).length - headerSize < f.header.payloadLength.toNat := by
    rw [header_length h]
    simp only [List.length_append, length_encode]
    omega
  have hbody : ((f.encode ++ rest).drop headerSize).take f.header.payloadLength.toNat =
      f.payload := by
    rw [header_length h, encode_eq, List.append_assoc,
      List.drop_left' (Header.length_encode f.header), List.take_left]
  unfold Frame.decode
  rw [show Header.decode (f.encode ++ rest) = .ok f.header by
    rw [encode_eq, List.append_assoc, Header.decode_append]]
  change (if _ then _ else _) = _
  rw [if_neg hlength, hbody]
  rfl

/-- The header in as much of a frame as has come. -/
theorem header_of_prefix {f : Frame} {sent : Bytes} (hsent : sent <+: f.encode)
    (h : headerSize ≤ sent.length) : f.header = {
      payloadLength := .ofNat (fieldLE 0 4 sent)
      messageType := .ofNat (fieldLE 4 2 sent)
      flags := .ofNat (fieldLE 6 2 sent)
      requestId := .ofNat (fieldLE 8 8 sent) } := by
  have hfront : sent.take headerSize = f.header.encode := by
    obtain ⟨rest, hrest⟩ := hsent
    rw [← List.take_append_of_le_length h, hrest, encode_eq,
      List.take_left' (Header.length_encode f.header)]
  have hdecode := Header.decode_take h
  rw [hfront, ← List.append_nil f.header.encode, Header.decode_append] at hdecode
  exact Except.ok.inj hdecode

theorem fieldLE_of_prefix {f : Frame} (hf : f.payload.length < 2 ^ 32) {sent : Bytes}
    (hsent : sent <+: f.encode) (h : headerSize ≤ sent.length) :
    fieldLE 0 4 sent = f.payload.length := by
  rw [← header_length hf, header_of_prefix hsent h, UInt32.toNat_ofNat',
    Nat.mod_eq_of_lt (fieldLE_lt 0 4 sent)]

end Frame

end Wire

end SessionRecorder

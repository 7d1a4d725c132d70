import SessionRecorder.Proofs.FrameStream

/-!
Frames both ways. The reader takes octets just if a header stands in front of them and they hold as
many behind it as the header says; what it takes is what the frame is written from, and what it
refuses it refuses with the true counts. Frames whose payload has a length field are read back,
alone and in a row, and the careful writer writes just those. Main statement: `codec_exact`.
-/

namespace SessionRecorder.Wire

open Bytes

namespace Frame

variable {data : Bytes} {f : Frame}

/-! ## What is read -/

/-- The reader by its two checks. -/
theorem decode_eq (data : Bytes) : Frame.decode data =
    if data.length < headerSize then .error (.frameTooShort data.length headerSize)
    else if data.length - headerSize < fieldLE 0 4 data then
      .error (.incompletePayload (data.length - headerSize) (fieldLE 0 4 data))
    else .ok ⟨.ofNat (fieldLE 4 2 data), .ofNat (fieldLE 6 2 data), .ofNat (fieldLE 8 8 data),
      (data.drop headerSize).take (fieldLE 0 4 data)⟩ := by
  have hlength : (UInt32.ofNat (fieldLE 0 4 data)).toNat = fieldLE 0 4 data := by
    rw [UInt32.toNat_ofNat', Nat.mod_eq_of_lt (fieldLE_lt 0 4 data)]
  unfold Frame.decode Header.decode
  split
  · rfl
  · change (if _ then _ else _) = _
    rw [hlength]

theorem exists_decode_iff : (∃ f, Frame.decode data = .ok f) ↔
    headerSize ≤ data.length ∧ fieldLE 0 4 data ≤ data.length - headerSize := by
  rw [decode_eq]
  split
  · rename_i hshort
    exact ⟨nofun, fun h => absurd h.1 (Nat.not_le.2 hshort)⟩
  · rename_i hheader
    split
    · rename_i hcut
      exact ⟨nofun, fun h => absurd h.2 (Nat.not_le.2 hcut)⟩
    · rename_i hwhole
      exact ⟨fun _ => ⟨Nat.not_lt.1 hheader, Nat.not_lt.1 hwhole⟩, fun _ => ⟨_, rfl⟩⟩

/-- The payload has as many octets as the header says, and the frame is written as the octets up to
the end of its payload. -/
theorem encode_eq_take (hdecode : Frame.decode data = .ok f) :
    f.payload.length = fieldLE 0 4 data ∧ f.encode = data.take (headerSize + fieldLE 0 4 data) := by
  obtain ⟨hlength, hdata⟩ := encode_of_decode hdecode
  have hprefix : f.encode <+: data := ⟨_, hdata.symm⟩
  have hpayload : fieldLE 0 4 data = f.payload.length := by
    have hsize : 0 + 4 ≤ f.encode.length := by
      rw [length_encode, headerSize]
      omega
    rw [hdata, fieldLE_append hsize]
    exact fieldLE_of_prefix hlength (List.prefix_refl _) (by rw [length_encode]; omega)
  refine ⟨hpayload.symm, ?_⟩
  rw [hpayload, ← length_encode]
  exact List.prefix_iff_eq_take.1 hprefix

/-! ## What is refused -/

/-- A frame that is cut short is refused with the number of octets that there are and that there
should be. -/
theorem decode_part (hf : f.payload.length < 2 ^ 32) {part : Bytes} (hpart : part <+: f.encode)
    (hcut : part ≠ f.encode) : Frame.decode part =
      .error (if part.length < headerSize then .frameTooShort part.length headerSize
        else .incompletePayload (part.length - headerSize) f.payload.length) := by
  have hshorter : part.length < headerSize + f.payload.length := by
    have hle := hpart.length_le
    have hne : part.length ≠ f.encode.length := fun h => hcut (hpart.eq_of_length h)
    rw [length_encode] at hle hne
    omega
  rw [decode_eq]
  split
  · rfl
  · rename_i hheader
    have hcount : fieldLE 0 4 part = f.payload.length :=
      fieldLE_of_prefix hf hpart (Nat.not_lt.1 hheader)
    rw [hcount, if_pos (by omega)]

/-- A frame is read back just if its length field holds the length of its payload. -/
theorem decode_encode_iff : Frame.decode f.encode = .ok f ↔ f.payload.length < 2 ^ 32 := by
  refine ⟨fun h => (encode_of_decode h).1, fun h => ?_⟩
  have hread := decode_append h []
  rwa [List.append_nil] at hread

theorem encode?_ok_iff {octets : Bytes} :
    f.encode? = .ok octets ↔ f.payload.length < 2 ^ 32 ∧ octets = f.encode := by
  unfold encode?
  split
  · rename_i hlength
    rw [Except.ok.injEq]
    exact ⟨fun h => ⟨hlength, h.symm⟩, fun h => h.2.symm⟩
  · rename_i hlength
    exact ⟨nofun, fun h => absurd h.1 hlength⟩

theorem encode?_error_iff {e : WireError} :
    f.encode? = .error e ↔
      2 ^ 32 ≤ f.payload.length ∧ e = .lengthOverflow "payload" f.payload.length := by
  unfold encode?
  split
  · rename_i hlength
    exact ⟨nofun, fun h => absurd hlength (Nat.not_lt.2 h.1)⟩
  · rename_i hlength
    rw [Except.error.injEq]
    exact ⟨fun h => ⟨Nat.not_lt.1 hlength, h.symm⟩, fun h => h.2.symm⟩

theorem split_flatMap_encode {frames : List Frame}
    (hframes : ∀ g ∈ frames, g.payload.length < 2 ^ 32) :
    split (frames.flatMap encode) = (frames, []) :=
  split_eq_iff.2 ⟨(List.append_nil _).symm, hframes, decode_nil⟩

end Frame

/-- The frame codec both ways: a frame is read back whatever follows it, and frames in a row one by
one; octets are read as a frame just if they hold a header and the payload that it announces, and
the frame is written as those octets; a proper part of a frame is refused with the true counts; and
the careful writer refuses just the frames that would not be read back, as their payload's length
has no field. -/
theorem codec_exact (f : Frame) (frames : List Frame) (data rest : Bytes) :
    (f.payload.length < 2 ^ 32 → Frame.decode (f.encode ++ rest) = .ok f) ∧
    ((∀ g ∈ frames, g.payload.length < 2 ^ 32) →
      Frame.split (frames.flatMap Frame.encode) = (frames, [])) ∧
    ((∃ g, Frame.decode data = .ok g) ↔
      headerSize ≤ data.length ∧ fieldLE 0 4 data ≤ data.length - headerSize) ∧
    (∀ g, Frame.decode data = .ok g → g.payload.length = fieldLE 0 4 data ∧
      g.encode = data.take (headerSize + fieldLE 0 4 data)) ∧
    (f.payload.length < 2 ^ 32 → ∀ part, part <+: f.encode → part ≠ f.encode →
      Frame.decode part =
        .error (if part.length < headerSize then .frameTooShort part.length headerSize
          else .incompletePayload (part.length - headerSize) f.payload.length)) ∧
    (Frame.decode f.encode = .ok f ↔ f.payload.length < 2 ^ 32) ∧
    (∀ octets, f.encode? = .ok octets ↔ f.payload.length < 2 ^ 32 ∧ octets = f.encode) ∧
    (∀ e, f.encode? = .error e ↔
      2 ^ 32 ≤ f.payload.length ∧ e = .lengthOverflow "payload" f.payload.length) :=
  ⟨fun h => Frame.decode_append h rest, Frame.split_flatMap_encode,
    Frame.exists_decode_iff, fun _ => Frame.encode_eq_take, fun h _ => Frame.decode_part h,
    Frame.decode_encode_iff, fun _ => Frame.encode?_ok_iff, fun _ => Frame.encode?_error_iff⟩

namespace Sample

def threeOctets : Frame := ⟨0xFFFF, 0x8001, 0xFFFFFFFFFFFFFFFE, [0, 255, 16]⟩

def noOctets : Frame := ⟨0, 0, 0, []⟩

end Sample

/-- A frame with octets behind it, two frames in a row, and a frame that is cut in its payload or in
its header. -/
theorem three_octets_read_back :
    Frame.decode (Sample.threeOctets.encode ++ [7]) = .ok Sample.threeOctets ∧
    Frame.split (Sample.noOctets.encode ++ Sample.threeOctets.encode) =
      ([Sample.noOctets, Sample.threeOctets], []) ∧
    Frame.decode (Sample.threeOctets.encode.take 18) = .error (.incompletePayload 2 3) ∧
    Frame.decode (Sample.threeOctets.encode.take 15) = .error (.frameTooShort 15 16) := by
  have hlength : Sample.threeOctets.payload.length < 2 ^ 32 := by decide
  obtain ⟨hread, hrow, -, -, hpart, -⟩ :=
    codec_exact Sample.threeOctets [Sample.noOctets, Sample.threeOctets] [] [7]
  refine ⟨hread hlength, hrow (by decide), ?_, ?_⟩
  · exact hpart hlength _ (List.take_prefix ..) (by decide)
  · exact hpart hlength _ (List.take_prefix ..) (by decide)

end SessionRecorder.Wire

import SessionRecorder.Proofs.Frames

/-!
Frames one behind the other. What can be read as a frame was written as that frame, so octets have
one reading as frames and a rest at which no frame can be read (`split_eq_iff`).
-/

namespace SessionRecorder

open Bytes

namespace Bytes

theorem ofNatLE_fieldLE {offset width : Nat} {bs : Bytes} (h : offset + width ≤ bs.length) :
    ofNatLE width (fieldLE offset width bs) = (bs.drop offset).take width := by
  have hlength : ((bs.drop offset).take width).length = width := by
    rw [List.length_take, List.length_drop]
    omega
  have hwritten := ofNatLE_toNatLE ((bs.drop offset).take width)
  rwa [hlength] at hwritten

end Bytes

namespace Wire

/-- A header that was read is what its octets are written from. -/
theorem Header.encode_of_decode {data : Bytes} {h : Header} (hdecode : Header.decode data = .ok h) :
    headerSize ≤ data.length ∧ h.encode = data.take headerSize := by
  unfold Header.decode at hdecode
  split at hdecode
  · cases hdecode
  · rename_i hlength
    rw [Nat.not_lt] at hlength
    cases hdecode
    have hsize : 16 ≤ data.length := hlength
    have hfield {offset width : Nat} (h : offset + width ≤ 16) :
        ofNatLE width (fieldLE offset width data) = (data.drop offset).take width :=
      ofNatLE_fieldLE (Nat.le_trans h hsize)
    have hpayload : (UInt32.ofNat (fieldLE 0 4 data)).toNat = fieldLE 0 4 data := by
      rw [UInt32.toNat_ofNat', Nat.mod_eq_of_lt (fieldLE_lt 0 4 data)]
    have htype : (UInt16.ofNat (fieldLE 4 2 data)).toNat = fieldLE 4 2 data := by
      rw [UInt16.toNat_ofNat', Nat.mod_eq_of_lt (fieldLE_lt 4 2 data)]
    have hflags : (UInt16.ofNat (fieldLE 6 2 data)).toNat = fieldLE 6 2 data := by
      rw [UInt16.toNat_ofNat', Nat.mod_eq_of_lt (fieldLE_lt 6 2 data)]
    have hid : (UInt64.ofNat (fieldLE 8 8 data)).toNat = fieldLE 8 8 data := by
      rw [UInt64.toNat_ofNat', Nat.mod_eq_of_lt (fieldLE_lt 8 8 data)]
    refine ⟨hlength, ?_⟩
    simp only [Header.encode, hpayload, htype, hflags, hid]
    rw [hfield (by decide), hfield (by decide), hfield (by decide), hfield (by decide)]
    change _ = data.take (4 + 2 + 2 + 8)
    simp only [List.take_add, List.drop_zero, List.append_assoc]

namespace Frame

/-- A frame that was read is what the octets in front of the rest are written from. -/
theorem encode_of_decode {data : Bytes} {f : Frame} (hdecode : Frame.decode data = .ok f) :
    f.payload.length < 2 ^ 32 ∧ data = f.encode ++ data.drop f.encode.length := by
  unfold Frame.decode at hdecode
  cases hheader : Header.decode data with
  | error e =>
    rw [hheader] at hdecode
    cases hdecode
  | ok h =>
    rw [hheader] at hdecode
    obtain ⟨hsize, hfront⟩ := Header.encode_of_decode hheader
    change (if _ then _ else _) = _ at hdecode
    split at hdecode
    · cases hdecode
    · rename_i hlength
      cases hdecode
      have hpayload : ((data.drop headerSize).take h.payloadLength.toNat).length =
          h.payloadLength.toNat := by
        rw [List.length_take, List.length_drop]
        omega
      let f : Frame := ⟨h.messageType, h.flags, h.requestId,
        (data.drop headerSize).take h.payloadLength.toNat⟩
      have hencode : f.encode = data.take (headerSize + h.payloadLength.toNat) := by
        have hh : f.header = h := by
          simp only [f, header, hpayload, UInt32.ofNat_toNat]
        rw [encode_eq, hh, hfront, List.take_add]
      refine ⟨by rw [hpayload]; exact h.payloadLength.toNat_lt, ?_⟩
      change data = f.encode ++ data.drop f.encode.length
      rw [length_encode, show f.payload.length = h.payloadLength.toNat from hpayload, hencode,
        List.take_append_drop]

/-- Of a frame that is cut short, nothing can be read. -/
theorem decode_of_cut {f : Frame} (hf : f.payload.length < 2 ^ 32) {part : Bytes}
    (hpart : part <+: f.encode) (hcut : part ≠ f.encode) (g : Frame) :
    Frame.decode part ≠ .ok g := by
  intro hdecode
  obtain ⟨rest, hrest⟩ := hpart
  obtain ⟨hg, hread⟩ := encode_of_decode hdecode
  -- The frame read from the part is read from the whole as well, so it is the whole.
  have hwhole : Frame.decode f.encode = .ok g := by
    rw [← hrest, hread, List.append_assoc]
    exact decode_append hg _
  have hfg := decode_append hf []
  rw [List.append_nil, hwhole] at hfg
  cases hfg
  have hle : part.length ≤ f.encode.length := List.IsPrefix.length_le ⟨rest, hrest⟩
  have hge := congrArg List.length hread
  rw [List.length_append] at hge
  exact hcut (List.IsPrefix.eq_of_length ⟨rest, hrest⟩ (by omega))

/-- The frames in octets that begin with one, and the rest, at which no frame can be read. -/
def split (data : Bytes) : List Frame × Bytes :=
  match _h : Frame.decode data with
  | .error _ => ([], data)
  | .ok f =>
    let behind := split (data.drop f.encode.length)
    (f :: behind.1, behind.2)
termination_by data.length
decreasing_by
  have hlength := congrArg List.length (encode_of_decode _h).2
  have hpos : 0 < f.encode.length := by
    rw [length_encode, headerSize]
    omega
  rw [List.length_append] at hlength
  omega

theorem split_of_unreadable {data : Bytes} (h : ∀ f, Frame.decode data ≠ .ok f) :
    split data = ([], data) := by
  unfold split
  split
  · rfl
  · rename_i f hf
    exact absurd hf (h f)

theorem split_encode_append {f : Frame} (hf : f.payload.length < 2 ^ 32) (rest : Bytes) :
    split (f.encode ++ rest) = (f :: (split rest).1, (split rest).2) := by
  rw [split]
  split
  · rename_i h
    rw [decode_append hf] at h
    cases h
  · rename_i g h
    rw [decode_append hf] at h
    cases h
    rw [List.drop_left]

/-- Octets have one reading as frames and a rest at which no frame can be read. -/
theorem split_eq_iff {data rest : Bytes} {frames : List Frame} :
    split data = (frames, rest) ↔
      data = frames.flatMap encode ++ rest ∧ (∀ f ∈ frames, f.payload.length < 2 ^ 32) ∧
        ∀ f, Frame.decode rest ≠ .ok f := by
  constructor
  · intro h
    induction data using split.induct generalizing frames with
    | case1 data e he =>
      rw [split_of_unreadable (by simp [he])] at h
      cases h
      exact ⟨rfl, nofun, by simp [he]⟩
    | case2 data f hf ih =>
      obtain ⟨hlength, hdata⟩ := encode_of_decode hf
      rw [hdata, split_encode_append hlength, Prod.mk.injEq] at h
      obtain ⟨rfl, rfl⟩ := h
      obtain ⟨hrest, hlengths, hunreadable⟩ := ih rfl
      refine ⟨?_, List.forall_mem_cons.2 ⟨hlength, hlengths⟩, hunreadable⟩
      rw [List.flatMap_cons, List.append_assoc, ← hrest, ← hdata]
  · rintro ⟨rfl, hlengths, hunreadable⟩
    induction frames with
    | nil => exact split_of_unreadable hunreadable
    | cons f frames ih =>
      obtain ⟨hlength, hlengths⟩ := List.forall_mem_cons.1 hlengths
      rw [List.flatMap_cons, List.append_assoc, split_encode_append hlength, ih hlengths]

theorem decode_nil (f : Frame) : Frame.decode [] ≠ .ok f := nofun

theorem split_nil : split [] = ([], []) := split_of_unreadable decode_nil

theorem split_encode {f : Frame} (hf : f.payload.length < 2 ^ 32) : split f.encode = ([f], []) := by
  have h := split_encode_append hf []
  rwa [List.append_nil, split_nil] at h

/-- Behind octets that are frames, reading goes on as it begins. -/
theorem split_append {octets : Bytes} {frames : List Frame} (h : split octets = (frames, []))
    (more : Bytes) : split (octets ++ more) = (frames ++ (split more).1, (split more).2) := by
  obtain ⟨hoctets, hlengths, -⟩ := split_eq_iff.1 h
  obtain ⟨hmore, hothers, hrest⟩ :=
    split_eq_iff.1 (show split more = ((split more).1, (split more).2) from rfl)
  refine split_eq_iff.2 ⟨?_, List.forall_mem_append.2 ⟨hlengths, hothers⟩, hrest⟩
  rw [List.flatMap_append, List.append_assoc, ← hmore, hoctets, List.append_nil]

end Frame

end Wire

end SessionRecorder

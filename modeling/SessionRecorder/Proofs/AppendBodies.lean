import SessionRecorder.Proofs.RequestBodies

/-!
Bodies of requests to append. A body is written unless a length has no field; it then gives back
every field of its request and has no octet besides, so that no other request has the same body.
Main statement: `append_body_decodable`.
-/

namespace SessionRecorder.Wire

open Bytes Text

namespace AppendRequest

variable {r s : AppendRequest}

/-! ## When a body is written -/

theorem encode_error_iff {e : WireError} : r.encode = .error e ↔
    2 ^ 32 ≤ (utf8 r.typeId).length ∧ e = .lengthOverflow "type_id" (utf8 r.typeId).length ∨
      (utf8 r.typeId).length < 2 ^ 32 ∧ 2 ^ 32 ≤ r.payload.length ∧
        e = .lengthOverflow "payload" r.payload.length := by
  unfold encode
  simp only
  split
  · rename_i htype
    simp [htype, Nat.not_lt.2 htype, eq_comm]
  · rename_i htype
    split
    · rename_i hpayload
      simp [htype, Nat.not_le.1 htype, hpayload, eq_comm]
    · rename_i hpayload
      simp [htype, hpayload]

theorem encode_of_lt (htype : (utf8 r.typeId).length < 2 ^ 32)
    (hpayload : r.payload.length < 2 ^ 32) : r.encode = .ok r.body := by
  unfold encode
  simp only
  rw [if_neg (Nat.not_le.2 htype), if_neg (Nat.not_le.2 hpayload)]

/-! ## Where the lengths stand -/

/-- The length of the payload is written twice, in front of the digest and behind it. -/
theorem payload_lengths (h : r.payload.length < 2 ^ 32) :
    fieldLE (32 + (utf8 r.typeId).length) 4 r.body = r.payload.length ∧
      fieldLE (68 + (utf8 r.typeId).length) 4 r.body = r.payload.length := by
  let front : Bytes := ofNatLE 8 r.contextId.toNat ++ ofNatLE 8 r.parentTurnId.toNat ++
    ofNatLE 4 (utf8 r.typeId).length ++ utf8 r.typeId ++ ofNatLE 4 r.typeVersion.toNat ++
    ofNatLE 4 encodingMsgpack ++ ofNatLE 4 compressionNone
  let behind : Bytes := r.payload ++ ofNatLE 4 digestSize ++
    (idempotencyKey r.contextId r.contentHash).octets
  let middle : Bytes := front ++ ofNatLE 4 r.payload.length ++ r.contentHash.octets
  have hfront : front.length = 32 + (utf8 r.typeId).length := by
    simp only [front, List.length_append, length_ofNatLE]
    omega
  have hmiddle : middle.length = 68 + (utf8 r.typeId).length := by
    simp only [middle, List.length_append, length_ofNatLE, hfront, r.contentHash.length_octets]
    omega
  have hfirst : r.body = front ++ (ofNatLE 4 r.payload.length ++
      (r.contentHash.octets ++ (ofNatLE 4 r.payload.length ++ behind))) := by
    simp only [body, front, behind, List.append_assoc]
  have hsecond : r.body = middle ++ (ofNatLE 4 r.payload.length ++ behind) := by
    simp only [body, front, middle, behind, List.append_assoc]
  constructor
  · rw [hfirst]
    exact fieldLE_ofNatLE front _ hfront h
  · rw [hsecond]
    exact fieldLE_ofNatLE middle behind hmiddle h

theorem length_body (r : AppendRequest) :
    r.body.length = 108 + (utf8 r.typeId).length + r.payload.length := by
  simp only [body, List.length_append, length_ofNatLE, r.contentHash.length_octets,
    (idempotencyKey r.contextId r.contentHash).length_octets]
  omega

/-! ## What a body determines -/

/-- Two requests with the same fields are the same. -/
theorem fields_injective (h : r.fields = s.fields) : r = s := by
  obtain ⟨context, parent, typeId, version, payload, digest⟩ := r
  obtain ⟨context', parent', typeId', version', payload', digest'⟩ := s
  simp only [fields, AppendFields.mk.injEq] at h
  obtain ⟨hcontext, hparent, rfl, hversion, -, -, -, hdigest, rfl, -⟩ := h
  rw [UInt64.toNat_inj.1 hcontext, UInt64.toNat_inj.1 hparent, UInt32.toNat_inj.1 hversion,
    Digest.Hash.ext hdigest]

theorem encode_injective {octets : Bytes} (hr : r.encode = .ok octets)
    (hs : s.encode = .ok octets) : r = s := by
  have hread := AppendFields.read?_of_encode hr
  rw [AppendFields.read?_of_encode hs] at hread
  exact fields_injective (Option.some.inj hread).symm

end AppendRequest

/-- A request to append has a body unless its type id or its payload is too long for a length
field. The body is read back field by field with no octet left, both its payload lengths are the
payload's, and no other request has the same body. -/
theorem append_body_decodable (r s : AppendRequest) :
    ((∃ e, r.encode = .error e) ↔
      2 ^ 32 ≤ (utf8 r.typeId).length ∨ 2 ^ 32 ≤ r.payload.length) ∧
    (∀ e, r.encode = .error e → e = .lengthOverflow "type_id" (utf8 r.typeId).length ∨
      e = .lengthOverflow "payload" r.payload.length) ∧
    ((utf8 r.typeId).length < 2 ^ 32 → r.payload.length < 2 ^ 32 → ∃ octets,
      r.encode = .ok octets ∧
      AppendFields.read? octets = some {
        contextId := r.contextId.toNat
        parentTurnId := r.parentTurnId.toNat
        typeId := r.typeId
        typeVersion := r.typeVersion.toNat
        encoding := 1
        compression := 0
        uncompressedLength := r.payload.length
        contentHash := r.contentHash.octets
        payload := r.payload
        key := (idempotencyKey r.contextId r.contentHash).octets } ∧
      fieldLE (32 + (utf8 r.typeId).length) 4 octets = r.payload.length ∧
      fieldLE (68 + (utf8 r.typeId).length) 4 octets = r.payload.length ∧
      octets.length = 108 + (utf8 r.typeId).length + r.payload.length) ∧
    (∀ octets, r.encode = .ok octets → s.encode = .ok octets → r = s) := by
  refine ⟨⟨?_, fun hlong => ?_⟩, fun e he => ?_, fun htype hpayload => ?_,
    fun octets => AppendRequest.encode_injective⟩
  · rintro ⟨e, he⟩
    exact (AppendRequest.encode_error_iff.1 he).imp And.left fun h => h.2.1
  · by_cases htype : 2 ^ 32 ≤ (utf8 r.typeId).length
    · exact ⟨_, AppendRequest.encode_error_iff.2 (.inl ⟨htype, rfl⟩)⟩
    · exact ⟨_, AppendRequest.encode_error_iff.2
        (.inr ⟨Nat.not_le.1 htype, hlong.resolve_left htype, rfl⟩)⟩
  · exact (AppendRequest.encode_error_iff.1 he).imp And.right fun h => h.2.2
  · have hencode := AppendRequest.encode_of_lt htype hpayload
    obtain ⟨hfirst, hsecond⟩ := AppendRequest.payload_lengths hpayload
    exact ⟨r.body, hencode, AppendFields.read?_of_encode hencode, hfirst, hsecond, r.length_body⟩

namespace Sample

/-- A request without type id and payload. -/
def bare : AppendRequest := ⟨7, 0, "", 1, [], ⟨List.replicate 32 0xAB, rfl⟩⟩

end Sample

/-- The body of a request without type id and payload has its 108 fixed octets; it is not the body
of the same request behind another turn. -/
theorem bare_body_decodable : (∃ octets, Sample.bare.encode = .ok octets ∧
      (AppendFields.read? octets).map (fun fields => (fields.contextId, fields.typeId,
        fields.uncompressedLength, fields.payload)) = some (7, "", 0, []) ∧
      octets.length = 108) ∧
    ∀ octets, Sample.bare.encode = .ok octets →
      ({ Sample.bare with parentTurnId := 1 } : AppendRequest).encode ≠ .ok octets := by
  obtain ⟨-, -, hread, hunique⟩ :=
    append_body_decodable Sample.bare { Sample.bare with parentTurnId := 1 }
  obtain ⟨octets, hencode, hfields, -, -, hlength⟩ := hread (by decide) (by decide)
  refine ⟨⟨octets, hencode, by rw [hfields]; rfl, hlength⟩, fun octets hfirst hsecond => ?_⟩
  exact absurd (congrArg AppendRequest.parentTurnId (hunique octets hfirst hsecond)) (by decide)

end SessionRecorder.Wire

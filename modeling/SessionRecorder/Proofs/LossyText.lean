import SessionRecorder.Text.Utf8

/-!
Text is read back from its octets by the reader that takes any octets: what it puts in the place of
octets that are no character, it puts nowhere into text. Main statement: `lossy_utf8`.
-/

namespace SessionRecorder.Text

/-! ## One octet -/

theorem Partial.start?_eq (b : UInt8) : Partial.start? b =
    if 0xC2 ≤ b.toNat ∧ b.toNat ≤ 0xDF then some ⟨1, b.toNat - 0xC0, 0x80, 0xBF⟩
    else if b.toNat = 0xE0 then some ⟨2, 0, 0xA0, 0xBF⟩
    else if b.toNat = 0xED then some ⟨2, 0xD, 0x80, 0x9F⟩
    else if 0xE1 ≤ b.toNat ∧ b.toNat ≤ 0xEF then some ⟨2, b.toNat - 0xE0, 0x80, 0xBF⟩
    else if b.toNat = 0xF0 then some ⟨3, 0, 0x90, 0xBF⟩
    else if 0xF1 ≤ b.toNat ∧ b.toNat ≤ 0xF3 then some ⟨3, b.toNat - 0xF0, 0x80, 0xBF⟩
    else if b.toNat = 0xF4 then some ⟨3, 4, 0x80, 0x8F⟩
    else none := by
  simp only [Partial.start?, UInt8.le_iff_toNat_le, ← UInt8.toNat_inj]
  rfl

/-- The first octet of a character of several. -/
theorem decodeLossy_start {n : Nat} {p : Partial} (hlow : 0x80 ≤ n) (hhigh : n < 256)
    (hstart : Partial.start? (UInt8.ofNat n) = some p) (rest : Bytes) :
    decodeLossy none (UInt8.ofNat n :: rest) = decodeLossy (some p) rest := by
  have hlead : ¬ UInt8.ofNat n < 0x80 := by
    rw [UInt8.lt_iff_toNat_lt, UInt8.toNat_ofNat_of_lt' hhigh]
    exact Nat.not_lt.2 hlow
  rw [decodeLossy, if_neg hlead, hstart]

/-- An octet that goes on with a character adds its six bits. -/
theorem decodeLossy_tail {missing bits k : Nat} {low high : UInt8} (hk : k < 64)
    (hlow : low.toNat ≤ k + 128) (hhigh : k + 128 ≤ high.toNat) (rest : Bytes) :
    decodeLossy (some ⟨missing, bits, low, high⟩) (UInt8.ofNat (k + 128) :: rest) =
      if missing ≤ 1 then Char.ofNat (bits * 64 + k) :: decodeLossy none rest
      else decodeLossy (some ⟨missing - 1, bits * 64 + k, 0x80, 0xBF⟩) rest := by
  have hoctet := UInt8.toNat_ofNat_of_lt' (show k + 128 < 256 by omega)
  have hrange : low ≤ UInt8.ofNat (k + 128) ∧ UInt8.ofNat (k + 128) ≤ high := by
    rw [UInt8.le_iff_toNat_le, UInt8.le_iff_toNat_le, hoctet]
    exact ⟨hlow, hhigh⟩
  have hbits : (UInt8.ofNat (k + 128)).toNat - 0x80 = k := by omega
  rw [decodeLossy, if_pos hrange]
  simp only [hbits]

/-- Behind the second octet of a character any six bits may come. -/
theorem decodeLossy_next {missing bits k : Nat} (hk : k < 64) (rest : Bytes) :
    decodeLossy (some ⟨missing, bits, 0x80, 0xBF⟩) (UInt8.ofNat (k + 128) :: rest) =
      if missing ≤ 1 then Char.ofNat (bits * 64 + k) :: decodeLossy none rest
      else decodeLossy (some ⟨missing - 1, bits * 64 + k, 0x80, 0xBF⟩) rest :=
  decodeLossy_tail hk (show 0x80 ≤ _ by omega) (show _ ≤ 0xBF by omega) rest

/-! ## One character -/

/-- The first octet of three bounds the second, so that no character below the range of three octets
and none of the surrogates is written so. -/
theorem start?_of_three {n : Nat} (hlow : 0x800 ≤ n) (hhigh : n < 0x10000)
    (hvalid : n < 0xD800 ∨ 0xDFFF < n) :
    ∃ low high, Partial.start? (UInt8.ofNat (n / 4096 % 16 + 224)) =
        some ⟨2, n / 4096, low, high⟩ ∧
      low.toNat ≤ n / 64 % 64 + 128 ∧ n / 64 % 64 + 128 ≤ high.toNat := by
  have hoctet := UInt8.toNat_ofNat_of_lt' (show n / 4096 % 16 + 224 < 256 by omega)
  rw [Partial.start?_eq, hoctet, if_neg (by omega)]
  split
  · refine ⟨0xA0, 0xBF, ?_, show 0xA0 ≤ _ by omega, show _ ≤ 0xBF by omega⟩
    rw [show n / 4096 = 0 by omega]
  · split
    · refine ⟨0x80, 0x9F, ?_, show 0x80 ≤ _ by omega, show _ ≤ 0x9F by omega⟩
      rw [show n / 4096 = 0xD by omega]
    · refine ⟨0x80, 0xBF, ?_, show 0x80 ≤ _ by omega, show _ ≤ 0xBF by omega⟩
      rw [if_pos (by omega), show n / 4096 % 16 + 224 - 0xE0 = n / 4096 by omega]

/-- The first octet of four bounds the second, so that no character is written so but those that
need four octets. -/
theorem start?_of_four {n : Nat} (hlow : 0x10000 ≤ n) (hhigh : n < 0x110000) :
    ∃ low high, Partial.start? (UInt8.ofNat (n / 262144 % 8 + 240)) =
        some ⟨3, n / 262144, low, high⟩ ∧
      low.toNat ≤ n / 4096 % 64 + 128 ∧ n / 4096 % 64 + 128 ≤ high.toNat := by
  have hoctet := UInt8.toNat_ofNat_of_lt' (show n / 262144 % 8 + 240 < 256 by omega)
  rw [Partial.start?_eq, hoctet, if_neg (by omega), if_neg (by omega), if_neg (by omega),
    if_neg (by omega)]
  split
  · refine ⟨0x90, 0xBF, ?_, show 0x90 ≤ _ by omega, show _ ≤ 0xBF by omega⟩
    rw [show n / 262144 = 0 by omega]
  · split
    · refine ⟨0x80, 0xBF, ?_, show 0x80 ≤ _ by omega, show _ ≤ 0xBF by omega⟩
      rw [show n / 262144 % 8 + 240 - 0xF0 = n / 262144 by omega]
    · refine ⟨0x80, 0x8F, ?_, show 0x80 ≤ _ by omega, show _ ≤ 0x8F by omega⟩
      rw [if_pos (by omega), show n / 262144 = 4 by omega]

/-- A character is read back from its octets, whatever follows them. -/
theorem decodeLossy_utf8EncodeChar (c : Char) (rest : Bytes) :
    decodeLossy none (String.utf8EncodeChar c ++ rest) = c :: decodeLossy none rest := by
  have hvalid : c.toNat < 0xD800 ∨ 0xDFFF < c.toNat ∧ c.toNat < 0x110000 := c.valid
  have hchar : Char.ofNat c.toNat = c := Char.ofNat_toNat c
  unfold String.utf8EncodeChar
  simp only [show c.val.toNat = c.toNat from rfl]
  generalize c.toNat = n at hvalid hchar
  -- A character has one, two, three or four octets.
  split
  · have hoctet := UInt8.toNat_ofNat_of_lt' (show n < 256 by omega)
    have hsmall : UInt8.ofNat n < 0x80 := by
      rw [UInt8.lt_iff_toNat_lt, hoctet]
      exact show n < 0x80 by omega
    rw [List.singleton_append, decodeLossy, if_pos hsmall, hoctet, hchar]
  · split
    · have hstart : Partial.start? (UInt8.ofNat (n / 64 % 32 + 192)) =
          some ⟨1, n / 64, 0x80, 0xBF⟩ := by
        have hoctet := UInt8.toNat_ofNat_of_lt' (show n / 64 % 32 + 192 < 256 by omega)
        rw [Partial.start?_eq, hoctet, if_pos (by omega),
          show n / 64 % 32 + 192 - 0xC0 = n / 64 by omega]
      rw [List.cons_append, List.singleton_append, decodeLossy_start (by omega) (by omega) hstart,
        decodeLossy_next (by omega), if_pos (Nat.le_refl 1),
        show n / 64 * 64 + n % 64 = n by omega, hchar]
    · split
      · obtain ⟨low, high, hstart, hlow, hhigh⟩ :=
          start?_of_three (n := n) (by omega) (by omega) (by omega)
        rw [List.cons_append, List.cons_append, List.singleton_append,
          decodeLossy_start (by omega) (by omega) hstart,
          decodeLossy_tail (by omega) hlow hhigh, if_neg (by omega),
          decodeLossy_next (by omega), if_pos (by omega),
          show (n / 4096 * 64 + n / 64 % 64) * 64 + n % 64 = n by omega, hchar]
      · obtain ⟨low, high, hstart, hlow, hhigh⟩ := start?_of_four (n := n) (by omega) (by omega)
        rw [List.cons_append, List.cons_append, List.cons_append, List.singleton_append,
          decodeLossy_start (by omega) (by omega) hstart,
          decodeLossy_tail (by omega) hlow hhigh, if_neg (by omega),
          decodeLossy_next (by omega), if_neg (by omega),
          decodeLossy_next (by omega), if_pos (by omega),
          show ((n / 262144 * 64 + n / 4096 % 64) * 64 + n / 64 % 64) * 64 + n % 64 = n by omega,
          hchar]

/-! ## A text -/

theorem lossy_utf8 (s : String) : lossy (utf8 s) = s := by
  have hchars (cs : List Char) : decodeLossy none (cs.flatMap String.utf8EncodeChar) = cs := by
    induction cs with
    | nil => rfl
    | cons c rest ih => rw [List.flatMap_cons, decodeLossy_utf8EncodeChar, ih]
  have hoctets := utf8_ofList s.toList
  rw [String.ofList_toList] at hoctets
  rw [lossy, hoctets, hchars, String.ofList_toList]

end SessionRecorder.Text

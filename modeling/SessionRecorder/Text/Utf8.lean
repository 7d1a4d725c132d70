import SessionRecorder.Bytes.Basic

/-!
Texts as UTF-8 octets, and the reading of octets that need not be UTF-8.
-/

namespace SessionRecorder.Text

def utf8 (s : String) : Bytes := s.toByteArray.data.toList

def ofUtf8? (bs : Bytes) : Option String := String.fromUTF8? ⟨bs.toArray⟩

theorem ofUtf8?_utf8 (s : String) : ofUtf8? (utf8 s) = some s := by
  have h : (⟨(utf8 s).toArray⟩ : ByteArray) = s.toByteArray := by simp [utf8]
  simp only [ofUtf8?, h, String.fromUTF8?]
  rw [dif_pos (by simpa using s.isValidUTF8)]
  rfl

theorem utf8_of_ofUtf8? {bs : Bytes} {s : String} (h : ofUtf8? bs = some s) : utf8 s = bs := by
  simp only [ofUtf8?, String.fromUTF8?] at h
  split at h
  · simp only [Option.some.injEq] at h
    subst h
    simp [utf8, String.fromUTF8]
  · cases h

theorem utf8_injective {s t : String} (h : utf8 s = utf8 t) : s = t := by
  have hs := ofUtf8?_utf8 s
  rw [h, ofUtf8?_utf8] at hs
  exact (Option.some.inj hs).symm

theorem length_utf8_append (s t : String) :
    (utf8 (s ++ t)).length = (utf8 s).length + (utf8 t).length := by
  simp [utf8]

theorem utf8_ofList (cs : List Char) :
    utf8 (String.ofList cs) = cs.flatMap String.utf8EncodeChar := by
  simp [utf8, List.utf8Encode]

theorem utf8_replicate (n : Nat) :
    utf8 (String.ofList (List.replicate n 'a')) = List.replicate n 0x61 := by
  rw [utf8_ofList, List.flatMap_replicate]
  exact List.flatten_replicate_singleton

theorem length_utf8_replicate (n : Nat) :
    (utf8 (String.ofList (List.replicate n 'a'))).length = n := by
  rw [utf8_replicate, List.length_replicate]

/-- No character takes more than four octets. -/
theorem length_utf8_ofList_le (cs : List Char) :
    (utf8 (String.ofList cs)).length ≤ 4 * cs.length := by
  rw [utf8_ofList]
  induction cs with
  | nil => exact Nat.le_refl 0
  | cons c rest ih =>
    have hchar := c.utf8Size_le_four
    rw [List.flatMap_cons, List.length_append, String.length_utf8EncodeChar, List.length_cons]
    omega

/-- A character of several octets whose first octets were read: how many are
missing, the bits so far, and the range of the next octet. -/
structure Partial where
  missing : Nat
  bits : Nat
  low : UInt8
  high : UInt8

/-- What an octet begins, if it can begin a character of several octets. The
ranges exclude overlong forms, surrogates and code points past U+10FFFF. -/
def Partial.start? (b : UInt8) : Option Partial :=
  if 0xC2 ≤ b ∧ b ≤ 0xDF then some ⟨1, b.toNat - 0xC0, 0x80, 0xBF⟩
  else if b = 0xE0 then some ⟨2, 0, 0xA0, 0xBF⟩
  else if b = 0xED then some ⟨2, 0xD, 0x80, 0x9F⟩
  else if 0xE1 ≤ b ∧ b ≤ 0xEF then some ⟨2, b.toNat - 0xE0, 0x80, 0xBF⟩
  else if b = 0xF0 then some ⟨3, 0, 0x90, 0xBF⟩
  else if 0xF1 ≤ b ∧ b ≤ 0xF3 then some ⟨3, b.toNat - 0xF0, 0x80, 0xBF⟩
  else if b = 0xF4 then some ⟨3, 4, 0x80, 0x8F⟩
  else none

/-- U+FFFD, which stands for octets that are no character. -/
def replacement : Char := '\uFFFD'

/-- Reads octets with `pending` open. Each longest beginning of a character that
breaks off, and each octet that begins none, becomes one U+FFFD. -/
def decodeLossy : Option Partial → Bytes → List Char
  | none, [] => []
  | some _, [] => [replacement]
  | none, b :: rest =>
    if b < 0x80 then Char.ofNat b.toNat :: decodeLossy none rest
    else match Partial.start? b with
      | some p => decodeLossy (some p) rest
      | none => replacement :: decodeLossy none rest
  | some p, b :: rest =>
    if p.low ≤ b ∧ b ≤ p.high then
      let bits := p.bits * 64 + (b.toNat - 0x80)
      if p.missing ≤ 1 then Char.ofNat bits :: decodeLossy none rest
      else decodeLossy (some ⟨p.missing - 1, bits, 0x80, 0xBF⟩) rest
    else replacement ::
      if b < 0x80 then Char.ofNat b.toNat :: decodeLossy none rest
      else match Partial.start? b with
        | some p => decodeLossy (some p) rest
        | none => replacement :: decodeLossy none rest

def lossy (bs : Bytes) : String := String.ofList (decodeLossy none bs)

end SessionRecorder.Text

import SessionRecorder.Bytes.Basic

/-!
Octet strings written as pairs of lower-case hexadecimal digits.
-/

namespace SessionRecorder.Bytes

def hexDigit (n : Nat) : Char :=
  if n < 10 then Char.ofNat (48 + n) else Char.ofNat (87 + n)

/-- The value of a hexadecimal digit of either case. -/
def hexValue? (c : Char) : Option Nat :=
  let n := c.toNat
  if 48 ≤ n ∧ n ≤ 57 then some (n - 48)
  else if 97 ≤ n ∧ n ≤ 102 then some (n - 87)
  else if 65 ≤ n ∧ n ≤ 70 then some (n - 55)
  else none

/-- The two digits of one octet, high half first. -/
def hexPair (b : UInt8) : List Char :=
  [hexDigit (b.toNat / 16), hexDigit (b.toNat % 16)]

def hexChars (bs : Bytes) : List Char := bs.flatMap hexPair

def hex (bs : Bytes) : String := String.ofList (hexChars bs)

def ofHexChars? : List Char → Option Bytes
  | [] => some []
  | h :: l :: rest => do
    let high ← hexValue? h
    let low ← hexValue? l
    let bs ← ofHexChars? rest
    some (UInt8.ofNat (16 * high + low) :: bs)
  | [_] => none

/-- Reads an even number of digits; anything else is refused. -/
def ofHex? (s : String) : Option Bytes := ofHexChars? s.toList

theorem hexValue?_hexDigit {n : Nat} (h : n < 16) : hexValue? (hexDigit n) = some n := by
  have : ∀ k : Fin 16, hexValue? (hexDigit k.val) = some k.val := by decide
  exact this ⟨n, h⟩

theorem ofHexChars?_hexChars (bs : Bytes) : ofHexChars? (hexChars bs) = some bs := by
  induction bs with
  | nil => rfl
  | cons b rest ih =>
    have hb : b.toNat < 256 := b.toNat_lt
    have hi := hexValue?_hexDigit (n := b.toNat / 16) (by omega)
    have lo := hexValue?_hexDigit (n := b.toNat % 16) (by omega)
    simp only [hexChars, List.flatMap_cons, hexPair, List.cons_append, List.nil_append]
    rw [ofHexChars?]
    simp only [hi, lo, Option.bind_eq_bind, Option.bind_some]
    rw [show rest.flatMap hexPair = hexChars rest from rfl, ih]
    simp only [Option.bind_some]
    rw [show 16 * (b.toNat / 16) + b.toNat % 16 = b.toNat by omega, UInt8.ofNat_toNat]

end SessionRecorder.Bytes

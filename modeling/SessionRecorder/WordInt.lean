/-!
Integers that one 64-bit word can hold, read with or without a sign.
-/

namespace SessionRecorder

/-- An integer from -2^63 up to 2^64 - 1. -/
structure WordInt where
  val : Int
  lower : -9223372036854775808 ≤ val
  upper : val < 18446744073709551616
deriving DecidableEq

namespace WordInt

def ofInt? (n : Int) : Option WordInt :=
  if h : -9223372036854775808 ≤ n ∧ n < 18446744073709551616 then some ⟨n, h.1, h.2⟩ else none

def ofUInt64 (n : UInt64) : WordInt :=
  ⟨n.toNat, by omega, by have : n.toNat < 18446744073709551616 := n.toNat_lt; omega⟩

def ofUInt8 (n : UInt8) : WordInt := ofUInt64 n.toUInt64

def ofInt64 (n : Int64) : WordInt :=
  ⟨n.toInt, n.le_toInt, by have : n.toInt < 9223372036854775808 := n.toInt_lt; omega⟩

instance : Inhabited WordInt := ⟨⟨0, by decide, by decide⟩⟩

def toUInt64? (n : WordInt) : Option UInt64 :=
  if 0 ≤ n.val then some (UInt64.ofNat n.val.toNat) else none

@[simp] theorem val_ofUInt64 (n : UInt64) : (ofUInt64 n).val = n.toNat := rfl

@[simp] theorem toUInt64?_ofUInt64 (n : UInt64) : (ofUInt64 n).toUInt64? = some n := by
  simp [toUInt64?]

end WordInt

end SessionRecorder

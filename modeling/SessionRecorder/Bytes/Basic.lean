/-!
Octet strings as lists, and fixed-width unsigned fields over them in both byte
orders. A field reads back as the number it was written from, modulo the width.
-/

-- Powers are those of the core library, whatever other instances are in scope.
attribute [instance (2000), default_instance 20000] instPowNat

namespace SessionRecorder

abbrev Bytes := List UInt8

namespace Bytes

/-- The `width` low octets of `n`, least significant first. -/
def ofNatLE : Nat → Nat → Bytes
  | 0, _ => []
  | width + 1, n => UInt8.ofNat n :: ofNatLE width (n / 256)

def toNatLE : Bytes → Nat
  | [] => 0
  | b :: rest => b.toNat + 256 * toNatLE rest

/-- The `width` low octets of `n`, most significant first. -/
def ofNatBE (width n : Nat) : Bytes := (ofNatLE width n).reverse

def toNatBE (bs : Bytes) : Nat := toNatLE bs.reverse

@[simp] theorem length_ofNatLE (width n : Nat) : (ofNatLE width n).length = width := by
  induction width generalizing n with
  | zero => rfl
  | succ width ih => simp [ofNatLE, ih]

@[simp] theorem length_ofNatBE (width n : Nat) : (ofNatBE width n).length = width := by
  simp [ofNatBE]

theorem toNatLE_ofNatLE (width n : Nat) :
    toNatLE (ofNatLE width n) = n % 256 ^ width := by
  induction width generalizing n with
  | zero => simp [ofNatLE, toNatLE, Nat.mod_one]
  | succ width ih =>
    simp only [ofNatLE, toNatLE, ih, UInt8.toNat_ofNat', Nat.reducePow]
    rw [Nat.pow_succ, Nat.mul_comm (256 ^ width), Nat.mod_mul]

theorem ofNatLE_toNatLE (bs : Bytes) : ofNatLE bs.length (toNatLE bs) = bs := by
  induction bs with
  | nil => rfl
  | cons b rest ih =>
    have hb : b.toNat < 256 := b.toNat_lt
    have hlow : UInt8.ofNat (toNatLE (b :: rest)) = b := by
      rw [toNatLE, ← UInt8.toNat_inj, UInt8.toNat_ofNat']
      omega
    have hhigh : toNatLE (b :: rest) / 256 = toNatLE rest := by
      rw [toNatLE]
      omega
    rw [List.length_cons, ofNatLE, hlow, hhigh, ih]

theorem toNatBE_ofNatBE (width n : Nat) :
    toNatBE (ofNatBE width n) = n % 256 ^ width := by
  simp [toNatBE, ofNatBE, toNatLE_ofNatLE]

theorem toNatLE_lt (bs : Bytes) : toNatLE bs < 256 ^ bs.length := by
  induction bs with
  | nil => simp [toNatLE]
  | cons b rest ih =>
    have hb : b.toNat < 256 := b.toNat_lt
    simp only [toNatLE, List.length_cons, Nat.pow_succ]
    omega

/-- The first `n` octets and what follows them, when there are that many. -/
def split? (n : Nat) (bs : Bytes) : Option (Bytes × Bytes) :=
  let front := bs.take n
  if front.length = n then some (front, bs.drop n) else none

theorem split?_append (front rest : Bytes) :
    split? front.length (front ++ rest) = some (front, rest) := by
  simp [split?]

theorem split?_eq_some_iff {n : Nat} {bs front rest : Bytes} :
    split? n bs = some (front, rest) ↔ bs = front ++ rest ∧ front.length = n := by
  constructor
  · intro h
    simp only [split?] at h
    split at h
    · rename_i hn
      simp only [Option.some.injEq, Prod.mk.injEq] at h
      obtain ⟨rfl, rfl⟩ := h
      exact ⟨(List.take_append_drop n bs).symm, hn⟩
    · cases h
  · rintro ⟨rfl, rfl⟩
    exact split?_append front rest

def fieldLE (offset width : Nat) (bs : Bytes) : Nat :=
  toNatLE ((bs.drop offset).take width)

end Bytes

end SessionRecorder

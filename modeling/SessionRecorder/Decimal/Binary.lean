/-!
Binary floating-point numbers as words: a sign, a significand `m` and a power
`q` of two, so that the magnitude is `m * 2 ^ q`. A fraction of naturals rounds
to the nearest number of the format, and a tie goes to the even significand.
-/

-- Powers are those of the core library, whatever other instances are in scope.
attribute [instance (2000), default_instance 20000] instPowNat

namespace SessionRecorder.Decimal

/-- A binary format: the bits of its significand and of its exponent field. -/
structure Format where
  significand : Nat
  exponent : Nat

def Format.double : Format := ⟨53, 11⟩

def Format.single : Format := ⟨24, 8⟩

namespace Format

/-- The exponent of the least positive number. -/
def minExponent (f : Format) : Int := 3 - 2 ^ (f.exponent - 1) - f.significand

def infinity (f : Format) : Nat := (2 ^ f.exponent - 1) * 2 ^ (f.significand - 1)

def signBit (f : Format) : Nat := 2 ^ (f.significand - 1 + f.exponent)

end Format

inductive Class where
  | nan
  | infinite
  | finite (m : Nat) (q : Int)
deriving DecidableEq

/-- The class of the number whose word, without the sign bit, is given. -/
def Format.classify (f : Format) (word : Nat) : Class :=
  let field := word / 2 ^ (f.significand - 1)
  let fraction := word % 2 ^ (f.significand - 1)
  if field = 2 ^ f.exponent - 1 then
    if fraction = 0 then .infinite else .nan
  else if field = 0 then .finite fraction f.minExponent
  else .finite (2 ^ (f.significand - 1) + fraction) (f.minExponent + (field - 1))

/-- The natural nearest to `num / den`, the even one of two. -/
def roundDiv (num den : Nat) : Nat :=
  let down := num / den
  let twice := 2 * (num % den)
  if twice < den then down
  else if den < twice then down + 1
  else if down % 2 = 0 then down else down + 1

/-- The exponent of the highest power of two that is not above `num / den`. -/
def floorLog2 (num den : Nat) : Int :=
  let guess : Int := (num.log2 : Int) - den.log2
  if 0 ≤ guess then
    if num < den * 2 ^ guess.toNat then guess - 1 else guess
  else
    if num * 2 ^ (-guess).toNat < den then guess - 1 else guess

/-- The word, without the sign bit, of the number of the format nearest to
`num / den`; what is too large for the format becomes infinite. -/
def Format.nearest (f : Format) (num den : Nat) : Nat :=
  if num = 0 then 0
  else
    let q := max (floorLog2 num den - (f.significand - 1)) f.minExponent
    let m := if 0 ≤ q then roundDiv num (den * 2 ^ q.toNat)
      else roundDiv (num * 2 ^ (-q).toNat) den
    let word := (q - f.minExponent).toNat * 2 ^ (f.significand - 1) + m
    min word f.infinity

/-- The word, without the sign bit, of the number nearest to `num / den * 2 ^ q`. -/
def Format.scaled (f : Format) (num den : Nat) (q : Int) : Nat :=
  if 0 ≤ q then f.nearest (num * 2 ^ q.toNat) den else f.nearest num (den * 2 ^ (-q).toNat)

def Format.product (f : Format) (a b : Nat) : Nat :=
  match f.classify a, f.classify b with
  | .finite m q, .finite n r => f.scaled (m * n) 1 (q + r)
  | _, _ => f.infinity

/-- The word of the number nearest to the quotient of two that are finite, of which
the second is not zero. -/
def Format.quotient (f : Format) (a b : Nat) : Nat :=
  match f.classify a, f.classify b with
  | .finite m q, .finite n r => f.scaled m n (q - r)
  | _, _ => f.infinity

def Format.ofDecimal (f : Format) (digits : Nat) (e : Int) : Nat :=
  -- Outside these exponents the result does not depend on the exact value.
  let size : Int := (Nat.toDigits 10 digits).length
  if digits = 0 ∨ e + size < -400 then 0
  else if 400 < e + size then f.infinity
  else if 0 ≤ e then f.nearest (digits * 10 ^ e.toNat) 1
  else f.nearest digits (10 ^ (-e).toNat)

end SessionRecorder.Decimal

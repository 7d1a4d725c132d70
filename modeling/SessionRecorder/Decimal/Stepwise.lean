import SessionRecorder.Decimal.Reading

/-!
Doubles read in steps, each of which rounds: the first digits of a numeral, as many
as one word can hold, and then a power of ten. The result is the nearest double as
long as both are exact, and may be a neighbour of it beyond that.
-/

namespace SessionRecorder.Decimal

/-- Appends digits to a natural while one word can hold it, and counts the digits that
are left from the first one that does not fit. -/
def appendDigits (n : Nat) : List Char → Nat × Nat
  | [] => (n, 0)
  | c :: rest =>
    let longer := 10 * n + (c.toNat - 48)
    if longer < 2 ^ 64 then appendDigits longer rest else (n, rest.length + 1)

/-- The digits of a numeral that count, as one natural, and their power of ten. -/
def Numeral.leading (n : Numeral) : Nat × Int :=
  let (whole, dropped) := appendDigits 0 n.whole
  let (digits, ignored) := appendDigits whole n.fraction
  (digits, n.exponent?.getD 0 + dropped - (n.fraction.length - ignored))

def topExponent : Nat := 308

def tenWord (e : Nat) : Nat := Format.double.ofDecimal 1 e

/-- The word of a double times a power of ten, rounded after each step; nothing if it
is too large. A power below the least one is divided by in several steps. -/
def scaleTen? (word : Nat) (e : Int) : Option Nat :=
  if word = 0 then some 0
  else if 0 ≤ e then
    let product := Format.double.product word (tenWord e.toNat)
    if e ≤ topExponent ∧ product < Format.double.infinity then some product else none
  else if -topExponent ≤ e then
    some (Format.double.quotient word (tenWord (-e).toNat))
  else scaleTen? (Format.double.quotient word (tenWord topExponent)) (e + topExponent)
termination_by (-e).toNat
decreasing_by simp only [topExponent] at *; omega

/-- The word, without a sign, of the double that a numeral is read as; nothing if it
is too large. -/
def Numeral.stepwise? (n : Numeral) : Option Nat :=
  let (digits, e) := n.leading
  scaleTen? (Format.double.nearest digits 1) e

end SessionRecorder.Decimal

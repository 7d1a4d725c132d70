import SessionRecorder.Decimal.Binary

/-!
The fewest decimal digits that read back as a given binary number, and of those
the nearest to it.
-/

namespace SessionRecorder.Decimal

/-- The magnitudes that round to `m * 2 ^ q`, as quarters of the unit `2 ^ q`:
the number itself lies at `4 * m`. The ends belong to it iff `m` is even. -/
structure Interval where
  below : Nat
  above : Nat
  closed : Bool

/-- Below a power of two the neighbours are half as far apart. -/
def Format.interval (f : Format) (m : Nat) (q : Int) : Interval :=
  let narrow := m = 2 ^ (f.significand - 1) ∧ f.minExponent < q
  ⟨if narrow then 4 * m - 1 else 4 * m - 2, 4 * m + 2, m % 2 = 0⟩

def Interval.contains (i : Interval) (num den : Nat) : Bool :=
  if i.closed then i.below * den ≤ num && num ≤ i.above * den
  else i.below * den < num && num < i.above * den

/-- Which of two decimals counts that are equally near to a number. -/
inductive Tie where
  | toEven
  | up
deriving DecidableEq

/-- Whether a tie between `down` and its successor goes to `down`. -/
def Tie.keeps (tie : Tie) (down : Nat) : Bool :=
  match tie with
  | .toEven => down % 2 == 0
  | .up => false

/-- Decimal digits as one natural, with the power of ten of the last digit. -/
structure Digits where
  value : Nat
  exponent : Int
deriving DecidableEq

/-- One of the two neighbours of `4 * m` quarters on the grid of multiples of
`10 ^ e`, if it lies in the interval: the nearer one if both do, and of two at the
same distance the one that `tie` says. With the quarter `num / den`, a multiple `d` is compared as `d * scaleNum / scaleDen`. -/
def gridPoint? (tie : Tie) (i : Interval) (quarters num den : Nat) (e : Int) : Option Nat :=
  -- `d * 10 ^ e` in quarters is `d * tens / unit`.
  let tens := if 0 ≤ e then den * 10 ^ e.toNat else den
  let unit := if 0 ≤ e then num else num * 10 ^ (-e).toNat
  let down := quarters * unit / tens
  let up := down + 1
  let hitDown := i.contains (down * tens) unit
  let hitUp := i.contains (up * tens) unit
  let gapDown := quarters * unit - down * tens
  let gapUp := up * tens - quarters * unit
  if hitDown && (!hitUp || gapDown < gapUp || (gapDown == gapUp && tie.keeps down)) then some down
  else if hitUp then some up
  else none

/-- Moves zeros at the end of the digits into the exponent. -/
def Digits.strip : Nat → Digits → Digits
  | 0, d => d
  | fuel + 1, d =>
    if d.value ≠ 0 ∧ d.value % 10 = 0 then Digits.strip fuel ⟨d.value / 10, d.exponent + 1⟩ else d

/-- The decimal exponent `k` with `10 ^ (k - 1) ≤ num / den < 10 ^ k`. -/
def decimalMagnitude (num den : Nat) : Int :=
  let guess := (floorLog2 num den * 30103) / 100000
  let above (k : Int) : Bool :=
    if 0 ≤ k then num < den * 10 ^ k.toNat else num * 10 ^ (-k).toNat < den
  ([guess - 1, guess, guess + 1, guess + 2].find? above).getD (guess + 3)

/-- The shortest digits of the finite number `m * 2 ^ q`; zero has the digit 0. -/
def Format.shortest (f : Format) (tie : Tie) (m : Nat) (q : Int) : Digits :=
  if m = 0 then ⟨0, 0⟩
  else
    -- One quarter of the unit is `num / den`.
    let num := if 2 ≤ q then 2 ^ (q - 2).toNat else 1
    let den := if 2 ≤ q then 1 else 2 ^ (2 - q).toNat
    let i := f.interval m q
    let k := decimalMagnitude (4 * m * num) den
    let found := (List.range 17).findSome? fun (n : Nat) =>
      let e := k - (n + 1)
      (gridPoint? tie i (4 * m) num den e).map fun (value : Nat) => (⟨value, e⟩ : Digits)
    (found.getD ⟨0, 0⟩).strip 20

end SessionRecorder.Decimal

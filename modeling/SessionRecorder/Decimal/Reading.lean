import SessionRecorder.Decimal.Binary

/-!
Numbers read from text: whole numbers within bounds, and decimals.
-/

namespace SessionRecorder.Decimal

def natOf (cs : List Char) : Nat :=
  cs.foldl (fun n c => 10 * n + (c.toNat - 48)) 0

/-- A list of at least one decimal digit as a natural. -/
def digits? (cs : List Char) : Option Nat :=
  if !cs.isEmpty && cs.all Char.isDigit then some (natOf cs) else none

/-- A natural of at most `max`, which a `+` may precede. -/
def boundedNat? (max : Nat) (s : String) : Option Nat := do
  let n ← match s.toList with
    | '+' :: cs => digits? cs
    | cs => digits? cs
  if n ≤ max then some n else none

/-- An integer from `min` to `max`, which a sign may precede. -/
def boundedInt? (min max : Int) (s : String) : Option Int := do
  let n ← match s.toList with
    | '+' :: cs => (digits? cs).map (fun (n : Nat) => (n : Int))
    | '-' :: cs => (digits? cs).map (fun (n : Nat) => -(n : Int))
    | cs => (digits? cs).map (fun (n : Nat) => (n : Int))
  if min ≤ n ∧ n ≤ max then some n else none

/-- An unsigned decimal as it is written: the digits before the point, those
behind it if there is a point, and the power of ten if one is given. -/
structure Numeral where
  whole : List Char
  fraction? : Option (List Char)
  exponent? : Option Int

namespace Numeral

def fraction (n : Numeral) : List Char := n.fraction?.getD []

def word (f : Format) (n : Numeral) : Nat :=
  f.ofDecimal (natOf (n.whole ++ n.fraction)) (n.exponent?.getD 0 - n.fraction.length)

end Numeral

/-- The digits behind a point at the start of `cs`, and what follows them. -/
def fractionPart : List Char → Option (List Char) × List Char
  | '.' :: rest => (some (rest.takeWhile Char.isDigit), rest.dropWhile Char.isDigit)
  | cs => (none, cs)

/-- The exponent part at the start of `cs`, if there is one, and what follows.
An `e` without digits behind it is refused. -/
def exponentPart? (cs : List Char) : Option (Option Int × List Char) :=
  match cs with
  | [] => some (none, [])
  | e :: rest =>
    if e = 'e' ∨ e = 'E' then
      let (negative, rest) := match rest with
        | '+' :: r => (false, r)
        | '-' :: r => (true, r)
        | r => (false, r)
      let ds := rest.takeWhile Char.isDigit
      if ds.isEmpty then none
      else
        let n : Int := natOf ds
        some (some (if negative then -n else n), rest.dropWhile Char.isDigit)
    else some (none, cs)

/-- The numeral at the start of `cs` and what follows it. The digits on either
side of the point may be missing. -/
def numeral? (cs : List Char) : Option (Numeral × List Char) := do
  let (fraction?, rest) := fractionPart (cs.dropWhile Char.isDigit)
  let (exponent?, rest) ← exponentPart? rest
  some (⟨cs.takeWhile Char.isDigit, fraction?, exponent?⟩, rest)

end SessionRecorder.Decimal

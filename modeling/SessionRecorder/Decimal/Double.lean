import SessionRecorder.Decimal.Layout
import SessionRecorder.Decimal.Reading

/-!
Binary numbers of 64 and 32 bits as their words, compared bit by bit.
-/

namespace SessionRecorder

open Decimal

structure Double where
  bits : UInt64
deriving DecidableEq

structure Single where
  bits : UInt32
deriving DecidableEq

namespace Double

def ofWord (negative : Bool) (word : Nat) : Double :=
  ⟨UInt64.ofNat (if negative then Format.double.signBit + word else word)⟩

def isNegative (x : Double) : Bool := Format.double.signBit ≤ x.bits.toNat

def magnitude (x : Double) : Decimal.Class :=
  Format.double.classify (x.bits.toNat % Format.double.signBit)

def isFinite (x : Double) : Bool :=
  match x.magnitude with
  | .finite _ _ => true
  | _ => false

def isPositive (x : Double) : Bool :=
  !x.isNegative && match x.magnitude with
    | .finite m _ => m ≠ 0
    | .infinite => true
    | .nan => false

def ofInt (n : Int) : Double := ofWord (n < 0) (Format.double.nearest n.natAbs 1)

def ofSingle (x : Single) : Double :=
  let negative := Format.single.signBit ≤ x.bits.toNat
  match Format.single.classify (x.bits.toNat % Format.single.signBit) with
  | .nan => ofWord negative (Format.double.infinity + 1)
  | .infinite => ofWord negative Format.double.infinity
  | .finite m q => ofWord negative (Format.double.scaled m 1 q)

/-- The whole part of a number above zero, at most 2^64 - 1; zero for others. -/
def toUInt64 (x : Double) : UInt64 :=
  if x.isNegative then 0
  else match x.magnitude with
    | .nan => 0
    | .infinite => 18446744073709551615
    | .finite m q =>
      let whole := if 0 ≤ q then m * 2 ^ q.toNat else m / 2 ^ (-q).toNat
      UInt64.ofNat (min whole 18446744073709551615)

/-- A decimal that a sign may precede, with a digit at some side of the point. -/
def ofText? (s : String) : Option Double :=
  let (negative, cs) := match s.toList with
    | '+' :: cs => (false, cs)
    | '-' :: cs => (true, cs)
    | cs => (false, cs)
  match numeral? cs with
  | some (n, []) =>
    if n.whole.isEmpty && n.fraction.isEmpty then none
    else some (ofWord negative (n.word Format.double))
  | _ => none

def text (layout : Layout) (x : Double) : String := layout.text Format.double x.bits.toNat

end Double

def Single.text (layout : Layout) (x : Single) : String :=
  layout.text Format.single x.bits.toNat

end SessionRecorder

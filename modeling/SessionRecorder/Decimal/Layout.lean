import SessionRecorder.Decimal.Shortest

/-!
Texts of binary numbers. A layout says which numbers have an exponent part,
whether a whole number shows a fraction digit, and which way a tie goes.
-/

namespace SessionRecorder.Decimal

/-- The decisions of one way to write numbers. -/
structure Layout where
  /-- Decimal exponents, of the first digit, that are written without an exponent part. -/
  positional : Int → Bool
  /-- Whether a whole number ends in `.0`. -/
  showFraction : Bool
  tie : Tie

/-- Never an exponent part, and no fraction of a whole number; a tie goes up. -/
def Layout.plain : Layout := ⟨fun _ => true, false, .up⟩

/-- From `0.00001` up to sixteen whole digits without an exponent part, and
always with a fraction digit there; a tie goes to the even digit. -/
def Layout.data : Layout := ⟨fun e => -5 ≤ e && e ≤ 15, true, .toEven⟩

def digitsOf (n : Nat) : List Char := Nat.toDigits 10 n

def positionalChars (showFraction : Bool) (d : Digits) : List Char :=
  let cs := digitsOf d.value
  if 0 ≤ d.exponent then
    cs ++ List.replicate d.exponent.toNat '0' ++ (if showFraction then ['.', '0'] else [])
  else
    let places := (-d.exponent).toNat
    if cs.length ≤ places then
      ['0', '.'] ++ List.replicate (places - cs.length) '0' ++ cs
    else cs.take (cs.length - places) ++ ['.'] ++ cs.drop (cs.length - places)

/-- One digit, the others behind a point, and the exponent with its sign. -/
def scientificChars (d : Digits) : List Char :=
  let cs := digitsOf d.value
  let e := d.exponent + (cs.length - 1)
  let fraction := if cs.length ≤ 1 then [] else '.' :: cs.drop 1
  let sign := if 0 ≤ e then '+' else '-'
  cs.take 1 ++ fraction ++ ['e', sign] ++ digitsOf e.natAbs

def Layout.chars (layout : Layout) (d : Digits) : List Char :=
  let e := d.exponent + ((digitsOf d.value).length - 1)
  if layout.positional e then positionalChars layout.showFraction d else scientificChars d

def Layout.text (layout : Layout) (f : Format) (word : Nat) : String :=
  let negative := f.signBit ≤ word
  match f.classify (word % f.signBit) with
  | .nan => "NaN"
  | .infinite => if negative then "-inf" else "inf"
  | .finite m q =>
    let body := layout.chars (f.shortest layout.tie m q)
    String.ofList (if negative then '-' :: body else body)

end SessionRecorder.Decimal

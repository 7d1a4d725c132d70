import SessionRecorder.Decimal.Double

/-!
Spans of time in whole nanoseconds.
-/

namespace SessionRecorder

structure Duration where
  nanoseconds : Nat
deriving DecidableEq

namespace Duration

open Decimal

def ofSeconds (n : Nat) : Duration := ⟨n * 1000000000⟩

/-- The whole nanoseconds nearest to a number of seconds, the even one of two;
nothing for negative numbers and for 2^64 seconds and more. -/
def ofDouble? (seconds : Double) : Option Duration :=
  match seconds.magnitude with
  | .finite m q =>
    if seconds.isNegative && m ≠ 0 then none
    else
      let n := if 0 ≤ q then m * 2 ^ q.toNat * 1000000000
        else roundDiv (m * 1000000000) (2 ^ (-q).toNat)
      if n < 2 ^ 64 * 1000000000 then some ⟨n⟩ else none
  | _ => none

/-- A whole part and a fraction of `places` digits, without zeros at its end. -/
def fractionText (whole fraction places : Nat) : String :=
  let ds := Nat.toDigits 10 fraction
  let ds := List.replicate (places - ds.length) '0' ++ ds
  let ds := (ds.reverse.dropWhile (· = '0')).reverse
  toString whole ++ (if ds.isEmpty then "" else "." ++ String.ofList ds)

/-- The span in the largest unit that leaves a whole part, or in nanoseconds. -/
def text (d : Duration) : String :=
  let n := d.nanoseconds
  if 1000000000 ≤ n then fractionText (n / 1000000000) (n % 1000000000) 9 ++ "s"
  else if 1000000 ≤ n then fractionText (n / 1000000) (n % 1000000) 6 ++ "ms"
  else if 1000 ≤ n then fractionText (n / 1000) (n % 1000) 3 ++ "µs"
  else toString n ++ "ns"

end Duration

end SessionRecorder

/-!
Sets of code points as ascending lists of closed ranges.
-/

namespace SessionRecorder.Text

/-- Closed ranges of code points. -/
abbrev Ranges := List (Nat × Nat)

def Ranges.has (ranges : Ranges) (c : Char) : Bool :=
  ranges.any fun (first, last) => first ≤ c.toNat && c.toNat ≤ last

end SessionRecorder.Text

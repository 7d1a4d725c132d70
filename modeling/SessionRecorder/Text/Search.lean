/-!
Texts inside texts.
-/

namespace SessionRecorder.Text

/-- Whether `part` occurs in `whole` without a gap. -/
def occursIn (part : List Char) : List Char → Bool
  | [] => part.isEmpty
  | c :: rest => part.isPrefixOf (c :: rest) || occursIn part rest

def contains (whole part : String) : Bool := occursIn part.toList whole.toList

def startsWith (whole front : String) : Bool := front.toList.isPrefixOf whole.toList

def endsWith (whole back : String) : Bool := back.toList.isSuffixOf whole.toList

def take (n : Nat) (s : String) : String := String.ofList (s.toList.take n)

/-- The text in front of `back`, if the text ends with it. -/
def withoutEnd? (back whole : String) : Option String :=
  if endsWith whole back then
    some (String.ofList (whole.toList.take (whole.toList.length - back.toList.length)))
  else none

end SessionRecorder.Text

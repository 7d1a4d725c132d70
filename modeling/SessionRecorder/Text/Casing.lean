import SessionRecorder.Text.CaseTable

/-!
Upper and lower case of whole texts. A capital sigma at the end of a word has
its final form; every other character is mapped by itself.
-/

namespace SessionRecorder.Text

def upperChar (c : Char) : List Char :=
  match upperExpansions.lookup c.toNat with
  | some image => image.map Char.ofNat
  | none => [(upperRuns.findSome? (·.image? c)).getD c]

/-- The lower case of one character outside any word. -/
def lowerChar (c : Char) : List Char :=
  match lowerExpansions.lookup c.toNat with
  | some image => image.map Char.ofNat
  | none => [(lowerRuns.findSome? (·.image? c)).getD c]

/-- Whether the first character that is not case-ignorable is cased. -/
def meetsCased (cs : List Char) : Bool :=
  match cs.dropWhile caseIgnorable.has with
  | [] => false
  | c :: _ => cased.has c

/-- The lower case of the text `rest`, with `before` reversed in front of it. -/
def lowerFrom : List Char → List Char → List Char
  | _, [] => []
  | before, c :: rest =>
    let image :=
      if c = 'Σ' then
        if meetsCased before && !(meetsCased rest) then ['ς'] else ['σ']
      else lowerChar c
    image ++ lowerFrom (c :: before) rest

def lower (s : String) : String := String.ofList (lowerFrom [] s.toList)

end SessionRecorder.Text

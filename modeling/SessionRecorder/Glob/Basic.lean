import SessionRecorder.Text.Utf8

/-!
Glob patterns over the octets of names. A token takes some front of a name; a
pattern takes a name if its tokens, one after the other, can take all of it.
-/

namespace SessionRecorder.Glob

/-- A part of a pattern. Folders are what stands between slashes. -/
inductive Token where
  | literal (c : Char)
  | any
  | star
  /-- At the start: nothing, or any folders with the slash behind them. -/
  | anyFoldersFirst
  /-- In the middle: a slash, or any folders between two slashes. -/
  | anyFolders
  /-- At the end: a slash and whatever follows. -/
  | anyFoldersLast
  /-- One octet among those of the ranges, or one that is not among them. -/
  | oneOf (negated : Bool) (ranges : List (Char × Char))
  | choice (branches : List (List Token))

abbrev Pattern := List Token

def slash : UInt8 := 0x2f

def charOctets (c : Char) : Bytes := String.utf8EncodeChar c

/-- A range of characters as ranges of octets. Of characters that take several octets
only the last one of the low end and the first one of the high end are the ends of a
range; the others stand alone. -/
def octetRanges (range : Char × Char) : List (UInt8 × UInt8) :=
  let (low, high) := range
  let alone (octets : Bytes) := octets.map fun b => (b, b)
  if low = high then alone (charOctets low)
  else
    match (charOctets low).getLast?, (charOctets high).head? with
    | some first, some last =>
      alone (charOctets low).dropLast ++ [(first, last)] ++ alone (charOctets high).tail
    | _, _ => []

def inRange (b : UInt8) (range : Char × Char) : Bool :=
  (octetRanges range).any fun (first, last) => first ≤ b && b ≤ last

/-- What remains of a name behind each of its slashes. -/
def behindSlashes : Bytes → List Bytes
  | [] => []
  | b :: rest => if b = slash then rest :: behindSlashes rest else behindSlashes rest

/-- Every end of a name, from the whole name to the empty one. -/
def ends : Bytes → List Bytes
  | [] => [[]]
  | b :: rest => (b :: rest) :: ends rest

mutual

/-- Whether a token stands for nothing: a choice all of whose branches are void. -/
def Token.isVoid : Token → Bool
  | .choice branches => allVoid branches
  | _ => false

def isVoid : List Token → Bool
  | [] => true
  | token :: rest => token.isVoid && isVoid rest

def allVoid : List (List Token) → Bool
  | [] => true
  | branch :: rest => isVoid branch && allVoid rest

end

/-- Ends of one name in descending length, together with others of the same kind. -/
def mergeEnds : List Bytes → List Bytes → List Bytes
  | [], others => others
  | ends, [] => ends
  | a :: ends, b :: others =>
    if b.length < a.length then a :: mergeEnds ends (b :: others)
    else if a.length < b.length then b :: mergeEnds (a :: ends) others
    else a :: mergeEnds ends others
termination_by ends others => ends.length + others.length

def behind? (octets name : Bytes) : Option Bytes :=
  if octets.isPrefixOf name then some (name.drop octets.length) else none

/-- The first of the names that begins with a slash, or the empty one. -/
def firstAtSlash (names : List Bytes) : Bytes :=
  (names.find? fun name => name.head? == some slash).getD []

mutual

/-- What can remain when a token has taken a front of one of the names. Names are ends
of one name in descending length, before and after. What several of them leave to a
token without a length of its own, the longest leaves already. -/
def Token.remainders : Token → List Bytes → List Bytes
  | .literal c, names => names.filterMap (behind? (charOctets c))
  | .any, names => names.filterMap List.tail?
  | .star, names =>
    match names with
    | [] => []
    | longest :: _ => ends longest
  | .anyFoldersFirst, names => mergeEnds names (behindSlashes (names.head?.getD []))
  | .anyFolders, names => behindSlashes (firstAtSlash names)
  | .anyFoldersLast, names =>
    match firstAtSlash names with
    | [] => []
    | _ :: rest => ends rest
  | .oneOf negated ranges, names => names.filterMap fun
    | b :: rest => if ranges.any (inRange b) != negated then some rest else none
    | [] => none
  | .choice branches, names =>
    if allVoid branches then names else remaindersOfAny branches names

def remainders : List Token → List Bytes → List Bytes
  | [], names => names
  | token :: rest, names => remainders rest (token.remainders names)

/-- What can remain behind one of the branches; void branches do not count. -/
def remaindersOfAny : List (List Token) → List Bytes → List Bytes
  | [], _ => []
  | branch :: rest, names =>
    mergeEnds (if isVoid branch then [] else remainders branch names) (remaindersOfAny rest names)

end

def lastComponent (name : Bytes) : Bytes := (name.reverse.takeWhile (· != slash)).reverse

/-- Whether the last component of a name stands for the folder above. Such a name has
neither a base name nor an extension. -/
def endsInParent (name : Bytes) : Bool := lastComponent name == [0x2e, 0x2e]

end SessionRecorder.Glob

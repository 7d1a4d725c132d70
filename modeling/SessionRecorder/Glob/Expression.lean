import SessionRecorder.Bytes.Hex
import SessionRecorder.Glob.Scope

/-!
Patterns as regular expressions over octets: their text, and how deep they are
nested. Expressions beyond a certain depth are refused.
-/

namespace SessionRecorder.Glob

/-- A part of a regular expression. A sequence of parts is a list. -/
inductive Expression where
  | octet (b : UInt8)
  | any
  | set (negated : Bool) (ranges : List (UInt8 × UInt8))
  | repeated (e : Expression)
  | optional (e : Expression)
  | group (branches : List (List Expression))

namespace Expression

/-- An octet, escaped where it would mean something else, or is not ASCII. -/
def octetText (b : UInt8) : String :=
  let c := Char.ofNat b.toNat
  if 0x7f < b then "\\x" ++ Bytes.hex [b]
  else if "\\.+*?()|[]\x7b\x7d^$#&-~".toList.contains c then String.ofList ['\\', c]
  else String.singleton c

def rangeText (range : UInt8 × UInt8) : String :=
  if range.1 = range.2 then octetText range.1
  else octetText range.1 ++ "-" ++ octetText range.2

mutual

def text : Expression → String
  | .octet b => octetText b
  | .any => "."
  | .set negated ranges =>
    (if negated then "[^" else "[") ++ String.join (ranges.map rangeText) ++ "]"
  | .repeated e => e.text ++ "*"
  | .optional e => e.text ++ "?"
  | .group branches => "(?:" ++ branchesText branches ++ ")"

def sequenceText : List Expression → String
  | [] => ""
  | e :: rest => e.text ++ sequenceText rest

def branchesText : List (List Expression) → String
  | [] => ""
  | [branch] => sequenceText branch
  | branch :: rest => sequenceText branch ++ "|" ++ branchesText rest

end

/-- One more than `depth` where several members stand side by side. -/
def beside (members depth : Nat) : Nat := if 2 ≤ members then depth + 1 else depth

mutual

/-- The number of parts around the innermost one, with sequences, choices and unions of
ranges as parts of their own. -/
def nesting : Expression → Nat
  | .octet _ => 0
  | .any => 0
  | .set _ ranges => beside ranges.length 1
  | .repeated e => e.nesting + 1
  | .optional e => e.nesting + 1
  | .group branches => beside branches.length (deepestBranch branches) + 1

def deepest : List Expression → Nat
  | [] => 0
  | e :: rest => max e.nesting (deepest rest)

def deepestBranch : List (List Expression) → Nat
  | [] => 0
  | branch :: rest => max (beside branch.length (deepest branch)) (deepestBranch rest)

end

end Expression

open Expression in
mutual

def Token.parts : Token → List Expression
  | .literal c => (charOctets c).map octet
  | .any => [.any]
  | .star => [repeated .any]
  | .anyFoldersFirst => [group [[optional (octet slash)], [repeated .any, octet slash]]]
  | .anyFolders => [group [[octet slash], [octet slash, repeated .any, octet slash]]]
  | .anyFoldersLast => [octet slash, repeated .any]
  | .oneOf negated ranges => [set negated (ranges.flatMap octetRanges)]
  | .choice branches =>
    match branchParts branches with
    | [] => []
    | parts => [group parts]

def parts : List Token → List Expression
  | [] => []
  | token :: rest => token.parts ++ parts rest

/-- The sequences of branches; void branches do not count. -/
def branchParts : List (List Token) → List (List Expression)
  | [] => []
  | branch :: rest =>
    match parts branch with
    | [] => branchParts rest
    | sequence => sequence :: branchParts rest

end

def expressionText (p : Pattern) : String :=
  "(?-u)^" ++ Expression.sequenceText (parts p) ++ "$"

def nestingLimit : Nat := 250

/-- The nesting of a pattern's expression, which with its start and end is a sequence. -/
def nesting (p : Pattern) : Nat := Expression.deepest (parts p) + 1

inductive NestingError where
  /-- The expression of a pattern that is read by itself is too deep. -/
  | alone (expression : String)
  /-- The expression at this place among those that are read together is too deep. -/
  | together (place : Nat)
deriving DecidableEq

def NestingError.message : NestingError → String
  | .alone expression => s!"error parsing glob '{expression}': error parsing pattern 0"
  | .together place => s!"error parsing pattern {place}"

/-- The first expression that is too deep, if there is one. Those that are only tried
on names with an extension are read first, each by itself; the others together. -/
def tooDeep? (ps : List Pattern) : Option NestingError :=
  let among (extended : Bool) := ps.filter fun p => scope p = .expression extended
  let refused (p : Pattern) := decide (nestingLimit < nesting p)
  match (among true).find? refused with
  | some p => some (.alone (expressionText p))
  | none => ((among false).findIdx? refused).map .together

end SessionRecorder.Glob

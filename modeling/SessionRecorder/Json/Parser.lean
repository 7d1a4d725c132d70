import SessionRecorder.Decimal.Stepwise
import SessionRecorder.Json.Basic

/-!
JSON data read from text. A whole literal without fraction and exponent that one
word can hold is a whole number, any other number a double; of two members with
one key the last counts.
-/

namespace SessionRecorder.Json

open Decimal

def isJsonBlank (c : Char) : Bool := c = ' ' || c = '\t' || c = '\n' || c = '\r'

def skipBlank (cs : List Char) : List Char := cs.dropWhile isJsonBlank

def hexOf? (c : Char) : Option Nat :=
  if c.isDigit then some (c.toNat - 48)
  else if 'a' ≤ c ∧ c ≤ 'f' then some (c.toNat - 87)
  else if 'A' ≤ c ∧ c ≤ 'F' then some (c.toNat - 55)
  else none

def unit? : List Char → Option (Nat × List Char)
  | a :: b :: c :: d :: rest => do
    let a ← hexOf? a
    let b ← hexOf? b
    let c ← hexOf? c
    let d ← hexOf? d
    some (((a * 16 + b) * 16 + c) * 16 + d, rest)
  | _ => none

/-- The character behind `\u`, which may take two units, and what follows it. -/
def escapedUnit? (cs : List Char) : Option (Char × List Char) := do
  let (high, rest) ← unit? cs
  if 0xD800 ≤ high ∧ high < 0xDC00 then
    match rest with
    | '\\' :: 'u' :: rest =>
      let (low, rest) ← unit? rest
      if 0xDC00 ≤ low ∧ low < 0xE000 then
        some (Char.ofNat (0x10000 + (high - 0xD800) * 0x400 + (low - 0xDC00)), rest)
      else none
    | _ => none
  else if 0xDC00 ≤ high ∧ high < 0xE000 then none
  else some (Char.ofNat high, rest)

def escape? : List Char → Option (Char × List Char)
  | '"' :: rest => some ('"', rest)
  | '\\' :: rest => some ('\\', rest)
  | '/' :: rest => some ('/', rest)
  | 'b' :: rest => some ('\x08', rest)
  | 'f' :: rest => some ('\x0c', rest)
  | 'n' :: rest => some ('\n', rest)
  | 'r' :: rest => some ('\r', rest)
  | 't' :: rest => some ('\t', rest)
  | 'u' :: rest => escapedUnit? rest
  | _ => none

/-- The rest of a string behind its first quote; `front` is reversed. -/
def stringRest? : Nat → List Char → List Char → Option (String × List Char)
  | 0, _, _ => none
  | fuel + 1, front, cs =>
    match cs with
    | '"' :: rest => some (String.ofList front.reverse, rest)
    | '\\' :: rest =>
      match escape? rest with
      | some (c, rest) => stringRest? fuel (c :: front) rest
      | none => none
    | c :: rest => if c.toNat < 32 then none else stringRest? fuel (c :: front) rest
    | [] => none

/-- Whether a numeral is written as JSON asks: no digit behind a first zero,
and digits on both sides of a point. -/
def isJsonNumeral (n : Numeral) : Bool :=
  (match n.whole with
    | [] => false
    | ['0'] => true
    | c :: _ => c != '0') &&
  n.fraction? != some []

/-- The integer that a numeral without fraction and exponent writes, if one word can
hold it. Zero with a sign is none. -/
def integer? (negative : Bool) (n : Numeral) : Option WordInt :=
  let value : Int := natOf n.whole
  if n.fraction?.isSome || n.exponent?.isSome || (negative && value = 0) then none
  else WordInt.ofInt? (if negative then -value else value)

def number? (cs : List Char) : Option (Json × List Char) := do
  let (negative, unsigned) := match cs with
    | '-' :: rest => (true, rest)
    | _ => (false, cs)
  let (n, rest) ← numeral? unsigned
  if !isJsonNumeral n then none
  else match integer? negative n with
    | some value => some (.int value, rest)
    | none =>
      let word ← n.stepwise?
      some (.double (Double.ofWord negative word), rest)

/-- Items up to the closing bracket, which is consumed; `front` is reversed. -/
def items? {α : Type} (close : Char) (item : List Char → Option (α × List Char)) :
    Nat → List α → List Char → Option (List α × List Char)
  | 0, _, _ => none
  | fuel + 1, front, cs => do
    let (x, rest) ← item cs
    match skipBlank rest with
    | c :: rest =>
      if c = ',' then items? close item fuel (x :: front) rest
      else if c = close then some ((x :: front).reverse, rest)
      else none
    | [] => none

def member? (fuel : Nat) (value : List Char → Option (Json × List Char)) (cs : List Char) :
    Option ((String × Json) × List Char) := do
  match skipBlank cs with
  | '"' :: rest =>
    let (key, rest) ← stringRest? fuel [] rest
    match skipBlank rest with
    | ':' :: rest =>
      let (v, rest) ← value rest
      some ((key, v), rest)
    | _ => none
  | _ => none

/-- A value, nested at most as deep as the second argument says, and what
follows it. The first argument bounds the length of every sequence. -/
def value? (fuel : Nat) : Nat → List Char → Option (Json × List Char)
  | 0, _ => none
  | depth + 1, cs =>
    match skipBlank cs with
    | 'n' :: 'u' :: 'l' :: 'l' :: rest => some (.null, rest)
    | 't' :: 'r' :: 'u' :: 'e' :: rest => some (.bool true, rest)
    | 'f' :: 'a' :: 'l' :: 's' :: 'e' :: rest => some (.bool false, rest)
    | '"' :: rest => (stringRest? fuel [] rest).map fun (s, rest) => (.string s, rest)
    | '[' :: rest =>
      match skipBlank rest with
      | ']' :: rest => some (.array [], rest)
      | rest => (items? ']' (value? fuel depth) fuel [] rest).map fun (l, rest) => (.array l, rest)
    | '\x7b' :: rest =>
      match skipBlank rest with
      | '\x7d' :: rest => some (.object [], rest)
      | rest =>
        (items? '\x7d' (member? fuel (value? fuel depth)) fuel [] rest).map
          fun (l, rest) => (ofMembers l, rest)
    | cs => number? cs

/-- The value that a text holds, with nothing but blanks around it. -/
def parse? (text : String) : Option Json :=
  let cs := text.toList
  let fuel := cs.length + 1
  match value? fuel fuel cs with
  | some (v, rest) => if (skipBlank rest).isEmpty then some v else none
  | none => none

end SessionRecorder.Json

import SessionRecorder.Bytes.Hex

/-!
UUIDs and the forms in which they are written.
-/

namespace SessionRecorder

def allHex (cs : List Char) : Bool :=
  cs.all fun c => c.isDigit || ('a' ≤ c && c ≤ 'f') || ('A' ≤ c && c ≤ 'F')

namespace Uuid

def isSimple (cs : List Char) : Bool := cs.length == 32 && allHex cs

/-- Groups of 8, 4, 4, 4 and 12 digits with hyphens between them. -/
def isHyphenated (cs : List Char) : Bool :=
  cs.length == 36 &&
  [8, 13, 18, 23].all (fun n => cs[n]? == some '-') &&
  allHex (cs.take 8) && allHex ((cs.drop 9).take 4) && allHex ((cs.drop 14).take 4) &&
  allHex ((cs.drop 19).take 4) && allHex (cs.drop 24)

/-- Whether a text is a UUID: simple, hyphenated, hyphenated in braces, or
hyphenated behind its URN scheme. -/
def accepts (cs : List Char) : Bool :=
  isSimple cs || isHyphenated cs ||
  (match cs with
    | '\x7b' :: rest => rest.getLast? == some '\x7d' && isHyphenated rest.dropLast
    | 'u' :: 'r' :: 'n' :: ':' :: 'u' :: 'u' :: 'i' :: 'd' :: ':' :: rest => isHyphenated rest
    | _ => false)

end Uuid

structure Uuid where
  octets : Bytes
  length_eq : octets.length = 16
deriving DecidableEq

namespace Uuid

def ofText? (text : String) : Option Uuid :=
  let cs := text.toList
  if accepts cs then
    let body := if "urn:uuid:".toList.isPrefixOf cs then cs.drop 9 else cs
    match Bytes.ofHexChars? (body.filter (Bytes.hexValue? · |>.isSome)) with
    | some octets => if h : octets.length = 16 then some ⟨octets, h⟩ else none
    | none => none
  else none

/-- Lower-case digits in groups of 8, 4, 4, 4 and 12. -/
def text (u : Uuid) : String :=
  let group (start size : Nat) := Bytes.hex ((u.octets.drop start).take size)
  String.intercalate "-" [group 0 4, group 4 2, group 6 2, group 8 2, group 10 6]

/-- The version number, which is four for random UUIDs. -/
def version (u : Uuid) : Nat := (u.octets.getD 6 0).toNat / 16

end Uuid

end SessionRecorder

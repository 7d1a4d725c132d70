import SessionRecorder.Json.Printer
import SessionRecorder.Text.Quoted

/-!
Typed values read from JSON data, with errors that name what was found and what
was expected. Records may be objects or arrays in the order of their fields.
-/

namespace SessionRecorder.Json

open Decimal

inductive DecodeError where
  | invalidType (found expected : String)
  | invalidValue (found expected : String)
  | invalidLength (length : Nat) (expected : String)
  | unknownVariant (name : String) (known : List String)
  | missingField (name : String)
  | noVariant (type : String)
deriving DecidableEq

def choiceText : List String → String
  | [] => "there are no variants"
  | [name] => s!"`{name}`"
  | [one, two] => s!"`{one}` or `{two}`"
  | names => "one of " ++ String.intercalate ", " (names.map fun name => s!"`{name}`")

def DecodeError.message : DecodeError → String
  | .invalidType found expected => s!"invalid type: {found}, expected {expected}"
  | .invalidValue found expected => s!"invalid value: {found}, expected {expected}"
  | .invalidLength length expected => s!"invalid length {length}, expected {expected}"
  | .unknownVariant name known => s!"unknown variant `{name}`, expected {choiceText known}"
  | .missingField name => s!"missing field `{name}`"
  | .noVariant type => s!"data did not match any variant of untagged enum {type}"

def found : Json → String
  | .null => "null"
  | .bool b => s!"boolean `{b}`"
  | .int n => s!"integer `{n.val}`"
  | .double x => s!"floating point `{doubleText x}`"
  | .string s => s!"string {Text.quoted s}"
  | .array _ => "sequence"
  | .object _ => "map"

def mismatch {α : Type} (expected : String) (data : Json) : Except DecodeError α :=
  .error (.invalidType data.found expected)

def readBool : Json → Except DecodeError Bool
  | .bool b => .ok b
  | data => mismatch "a boolean" data

def readString : Json → Except DecodeError String
  | .string s => .ok s
  | data => mismatch "a string" data

/-- A double, or a whole number as the nearest double. -/
def readDouble : Json → Except DecodeError Double
  | .double x => .ok x
  | .int n => .ok (.ofInt n.val)
  | data => mismatch "f64" data

/-- A whole number between two bounds, which the type's name stands for. -/
def readInt (low high : Int) (type : String) : Json → Except DecodeError Int
  | .int n =>
    if low ≤ n.val ∧ n.val ≤ high then .ok n.val
    else .error (.invalidValue s!"integer `{n.val}`" type)
  | data => mismatch type data

/-- Items read one after the other; the first error counts. -/
def readEach {α : Type} (read : Json → Except DecodeError α) :
    List Json → Except DecodeError (List α)
  | [] => .ok []
  | item :: rest => do
    let x ← read item
    let xs ← readEach read rest
    .ok (x :: xs)

def readStrings : Json → Except DecodeError (List String)
  | .array items => readEach readString items
  | data => mismatch "a sequence" data

def readOption {α : Type} (read : Json → Except DecodeError α) :
    Json → Except DecodeError (Option α)
  | .null => .ok none
  | data => (read data).map some

/-- One of several names, alone or as the only key of an object over null. -/
def readVariant {α : Type} (variants : List (String × α)) (data : Json) :
    Except DecodeError α :=
  let named (name : String) : Except DecodeError α :=
    match variants.lookup name with
    | some x => .ok x
    | none => .error (.unknownVariant name (variants.map (·.1)))
  match data with
  | .string name => named name
  | .object [(name, content)] => do
    let x ← named name
    match content with
    | .null => .ok x
    | content => mismatch "unit" content
  | .object _ => .error (.invalidValue "map" "map with a single key")
  | data => mismatch "string or map" data

/-- A field of the record type `σ`: how its value changes a record. -/
structure FieldReader (σ : Type) where
  name : String
  read : Json → σ → Except DecodeError σ

/-- The members in order, each read by the field of its name; a name without a
field is passed over. -/
def readMembers {σ : Type} (fields : List (FieldReader σ)) :
    List (String × Json) → σ → Except DecodeError σ
  | [], s => .ok s
  | (key, value) :: rest, s => do
    let s ← match fields.find? (·.name == key) with
      | some field => field.read value s
      | none => .ok s
    readMembers fields rest s

def readPlaces {σ : Type} : List (FieldReader σ) → List Json → σ → Except DecodeError σ
  | field :: fields, item :: items, s => do
    let s ← field.read item s
    readPlaces fields items s
  | _, _, s => .ok s

/-- A record in which every field has a value at the start. -/
def readRecord {σ : Type} (type : String) (fields : List (FieldReader σ)) (start : σ) :
    Json → Except DecodeError σ
  | .object members => readMembers fields members start
  | .array items => do
    let s ← readPlaces fields items start
    if fields.length < items.length then
      .error (.invalidLength items.length "fewer elements in array")
    else .ok s
  | data => mismatch s!"struct {type}" data

end SessionRecorder.Json

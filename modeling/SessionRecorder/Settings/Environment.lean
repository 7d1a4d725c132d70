import SessionRecorder.Settings.Basic
import SessionRecorder.Log

/-!
Settings from environment variables. A value that does not parse changes
nothing and is reported.
-/

namespace SessionRecorder

abbrev Environment := String → Option String

def Environment.nonEmpty (env : Environment) (name : String) : Option String :=
  (env name).filter (· != "")

namespace Settings

open Decimal

/-- A truth value in any case of its ASCII letters. -/
def parseBool (text : String) : Option Bool :=
  let name := String.ofList (text.toList.map Char.toLower)
  if ["true", "1", "yes", "on"].contains name then some true
  else if ["false", "0", "no", "off"].contains name then some false
  else none

/-- A natural of at most `top` that lies between `min` and `max`. -/
def parseRange (top min max : Nat) (text : String) : Option Nat :=
  (boundedNat? top text).filter fun n => min ≤ n && n ≤ max

def parsePositive (text : String) : Option Double :=
  (Double.ofText? text).filter fun x => x.isFinite && x.isPositive

structure Override where
  name : String
  /-- The settings with the value of the text; nothing if the text is no value. -/
  set? : String → Settings → Option Settings

/-- The overriding variables, in the order in which they are applied. -/
def overrides : List Override := [
  ⟨"CXDB_HOST", fun v s => some { s with host := v }⟩,
  ⟨"CXDB_PORT", fun v s =>
    (parseRange 65535 1 65535 v).map fun n => { s with port := UInt16.ofNat n }⟩,
  ⟨"CXDB_HTTP_PORT", fun v s =>
    (parseRange 65535 1 65535 v).map fun n => { s with httpPort := UInt16.ofNat n }⟩,
  ⟨"CXDB_CONNECT_TIMEOUT", fun v s =>
    (parsePositive v).map fun x => { s with connectTimeout := x }⟩,
  ⟨"CXDB_FLUSH_TIMEOUT", fun v s =>
    (parsePositive v).map fun x => { s with flushTimeout := x }⟩,
  ⟨"CXDB_BUFFER_SIZE", fun v s =>
    (parseRange 18446744073709551615 1 10000000 v).map fun n =>
      { s with bufferSize := UInt64.ofNat n }⟩,
  ⟨"CXDB_PRIORITY", fun v s =>
    (boundedInt? (-2147483648) 2147483647 v).map fun n => { s with priority := Int32.ofInt n }⟩,
  ⟨"CXDB_DEDUP_MODE", fun v s =>
    (DedupMode.variants.lookup v).map fun x => { s with dedupMode := x }⟩,
  ⟨"CXDB_EVENT_RECORD_SHAPE", fun v s =>
    (RecordShape.variants.lookup v).map fun x => { s with recordShape := x }⟩,
  ⟨"CXDB_PUBLISH_REGISTRY", fun v s =>
    (parseBool v).map fun b => { s with publishRegistry := b }⟩]

def ignored (name value : String) : Log.Event :=
  .warn "invalid env var, ignoring" [("key", name), ("value", value)]

/-- The settings after one variable, with a report if its value does not parse. -/
def Override.apply (o : Override) (env : Environment) (s : Settings) : Settings × Log.Journal :=
  match env.nonEmpty o.name with
  | none => (s, [])
  | some v =>
    match o.set? v s with
    | some t => (t, [])
    | none => (s, [ignored o.name v])

def applyAll (env : Environment) : List Override → Settings → Settings × Log.Journal
  | [], s => (s, [])
  | o :: rest, s =>
    let (s, first) := o.apply env s
    let (s, others) := applyAll env rest s
    (s, first ++ others)

def applyEnvironment (env : Environment) (s : Settings) : Settings × Log.Journal :=
  applyAll env overrides s

end Settings

end SessionRecorder

import SessionRecorder.Json.Decode
import SessionRecorder.Text.Blank

/-!
What a provider reports about the tokens of a response. Counts are read from
whatever stands in their place, so that a report is never lost to its shape.
-/

namespace SessionRecorder

open Decimal Json

/-- The count in a value: a whole number, the whole part of a positive double, or
the number in a text; zero else. -/
def Json.count : Json → UInt64
  | .int n => (n.toUInt64?).getD 0
  | .double x => if x.isPositive then x.toUInt64 else 0
  | .string s => .ofNat ((boundedNat? 18446744073709551615 (Text.trim s)).getD 0)
  | _ => 0

def Json.nonEmptyText? : Json → Option String
  | .string s => if s = "" then none else some s
  | _ => none

/-- The sum of two counts, or the largest count. -/
def addCounts (a b : UInt64) : UInt64 := .ofNat (min (a.toNat + b.toNat) 18446744073709551615)

structure Usage where
  input : UInt64 := 0
  cacheRead : UInt64 := 0
  cacheCreation : UInt64 := 0
  output : UInt64 := 0
  reasoningTokens : UInt64 := 0
  thinking : UInt64 := 0
  details : Option UInt64 := none
  model : Option String := none
deriving DecidableEq

namespace Usage

def detailFields : List (FieldReader UInt64) :=
  [⟨"reasoning_tokens", fun v _ => .ok v.count⟩]

def fields : List (FieldReader Usage) := [
  ⟨"input_tokens", fun v u => .ok { u with input := v.count }⟩,
  ⟨"cache_read_input_tokens", fun v u => .ok { u with cacheRead := v.count }⟩,
  ⟨"cache_creation_input_tokens", fun v u => .ok { u with cacheCreation := v.count }⟩,
  ⟨"output_tokens", fun v u => .ok { u with output := v.count }⟩,
  ⟨"reasoning_tokens", fun v u => .ok { u with reasoningTokens := v.count }⟩,
  ⟨"thinking_tokens", fun v u => .ok { u with thinking := v.count }⟩,
  ⟨"completion_tokens_details", fun v u => do
    let details ← readOption (readRecord "CompletionTokensDetails" detailFields 0) v
    .ok { u with details }⟩,
  ⟨"model", fun v u => .ok { u with model := v.nonEmptyText? }⟩]

def ofJson (data : Json) : Except DecodeError Usage :=
  readRecord "ProviderUsage" fields {} data

def totalInput (u : Usage) : UInt64 := addCounts (addCounts u.input u.cacheRead) u.cacheCreation

/-- The tokens spent on reasoning: the first of the three counts that is not zero. -/
def reasoning (u : Usage) : UInt64 :=
  ([u.reasoningTokens, u.thinking, u.details.getD 0].find? (· ≠ 0)).getD 0

end Usage

end SessionRecorder

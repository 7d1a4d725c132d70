import SessionRecorder.Json.Decode

/-!
What a recorder tells the session after an event: it only observes, so it always
lets the session continue.
-/

namespace SessionRecorder

inductive HookAction where
  | continue
deriving DecidableEq

def HookAction.name : HookAction → String
  | .continue => "continue"

structure HookResult where
  action : HookAction := .continue
deriving DecidableEq

namespace HookResult

open Json

def readAction : Json → Except DecodeError HookAction :=
  readVariant [(HookAction.continue.name, .continue)]

/-- Reads a result; its action must be there. -/
def ofJson : Json → Except DecodeError HookResult
  | .object members =>
    match Assoc.find? "action" members with
    | some action => (readAction action).map HookResult.mk
    | none => .error (.missingField "action")
  | .array [] => .error (.invalidLength 0 "struct HookResult with 1 element")
  | .array (action :: rest) => do
    let action ← readAction action
    if rest.isEmpty then .ok ⟨action⟩
    else .error (.invalidLength (rest.length + 1) "fewer elements in array")
  | data => mismatch "struct HookResult" data

def toJson (r : HookResult) : Json := .object [("action", .string r.action.name)]

end HookResult

end SessionRecorder

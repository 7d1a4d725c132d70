/-!
Local failures of the codecs: octets that are no frame or no payload, and
lengths that no field can hold.
-/

namespace SessionRecorder

inductive WireError where
  | frameTooShort (got need : Nat)
  | incompletePayload (got expected : Nat)
  | lengthOverflow (field : String) (length : Nat)
  | encode (detail : String)
  | decode (detail : String)
  /-- Octets that are a value, but not a map with numeric tags. -/
  | invalidPayload (detail : String)
deriving DecidableEq

def WireError.message : WireError → String
  | .frameTooShort got need => s!"frame too short: {got} bytes, need at least {need}"
  | .incompletePayload got expected => s!"incomplete payload: got {got} bytes, expected {expected}"
  | .lengthOverflow field length => s!"{field} length {length} exceeds the wire limit"
  | .encode detail => s!"msgpack encode error: {detail}"
  | .decode detail => s!"msgpack decode error: {detail}"
  | .invalidPayload detail => s!"invalid payload: {detail}"

end SessionRecorder

import SessionRecorder.Duration
import SessionRecorder.Wire.Error

/-!
Why a call of a store fails.
-/

namespace SessionRecorder

inductive IoFault where
  | refused
  | reset
  | unexpectedEnd
  | brokenPipe
  /-- The connection ends before a whole answer has come. -/
  | earlyEnd
  /-- An answer announces more octets than any answer may have. -/
  | oversized (length limit : Nat)
  | invalid (detail : String)
  | system (reason : String) (number : Nat)
deriving DecidableEq

def IoFault.message : IoFault → String
  | .refused => "connection refused"
  | .reset => "connection reset"
  | .unexpectedEnd => "unexpected end of file"
  | .brokenPipe => "broken pipe"
  | .earlyEnd => "early eof"
  | .oversized length limit => s!"response frame of {length} bytes exceeds {limit}"
  | .invalid detail => detail
  | .system reason number => s!"{reason} (os error {number})"

inductive StoreError where
  | connect (address : String) (cause : IoFault)
  | timeout (operation : String) (limit : Duration)
  | connectionLost (cause : IoFault)
  | notConnected
  | protocol (code : Option UInt32) (detail : String)
  | malformed (operation : String) (got need : Nat)
  | wire (e : WireError)
  | other (detail : String)
deriving DecidableEq

namespace StoreError

def message : StoreError → String
  | connect address cause => s!"failed to connect to CXDB at {address}: {cause.message}"
  | timeout operation limit => s!"CXDB {operation} timed out after {limit.text}"
  | connectionLost cause => s!"CXDB connection lost: {cause.message}"
  | notConnected => "not connected to CXDB"
  | protocol (some code) detail => s!"CXDB error (code={code.toNat}): {detail}"
  | protocol none detail => s!"CXDB error: {detail}"
  | malformed operation got need =>
    s!"{operation} response too short: {got} bytes, need {need}"
  | wire e => e.message
  | other detail => detail

def isConnection : StoreError → Bool
  | connect .. | timeout .. | connectionLost .. => true
  | _ => false

/-- Whether the store has answered, so that to repeat the call is in vain. -/
def isProtocol : StoreError → Bool
  | protocol .. | malformed .. => true
  | _ => false

end StoreError

end SessionRecorder

import SessionRecorder.Text.Search

/-!
What the recorder reports. Failures show nowhere else, so the reports are part
of every result, oldest first.
-/

namespace SessionRecorder.Log

inductive Level where
  | trace
  | debug
  | info
  | warn
  | error
deriving DecidableEq

/-- One report: a message, and fields in the order in which they are given. -/
structure Event where
  level : Level
  message : String
  fields : List (String × String)
deriving DecidableEq

namespace Event

def debug (message : String) (fields : List (String × String)) : Event := ⟨.debug, message, fields⟩

def info (message : String) (fields : List (String × String)) : Event := ⟨.info, message, fields⟩

def warn (message : String) (fields : List (String × String)) : Event := ⟨.warn, message, fields⟩

def field? (name : String) (e : Event) : Option String := e.fields.lookup name

end Event

/-- Reports, oldest first. -/
abbrev Journal := List Event

namespace Journal

def hasMessage (part : String) (j : Journal) : Bool := j.any (Text.contains ·.message part)

def matching (level : Level) (part : String) (j : Journal) : Journal :=
  j.filter fun e => e.level = level && Text.contains e.message part

def atLevel (level : Level) (j : Journal) : Journal := j.filter (·.level = level)

end Journal

end SessionRecorder.Log

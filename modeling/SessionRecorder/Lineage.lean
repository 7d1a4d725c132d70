import SessionRecorder.Uuid

/-!
Where a session stands in the tree of delegated sessions, and the agent whose
name its id carries.
-/

namespace SessionRecorder

def afterUnderscore? (cs : List Char) : Option (List Char) :=
  if cs.contains '_' then some (cs.reverse.takeWhile (· != '_')).reverse else none

/-- The agent named by a session id: what stands behind its last underscore.
A UUID names none. -/
def agentOf? (sessionId : String) : Option String :=
  let cs := sessionId.toList
  if cs.isEmpty || Uuid.accepts cs then none
  else match afterUnderscore? cs with
    | some (c :: rest) => some (String.ofList (c :: rest))
    | _ => none

structure Lineage where
  sessionId : String
  /-- The delegating session; none for a root. -/
  parentId : Option String
  /-- The root of the tree, the session itself if it is the root. -/
  rootId : String
  agent : Option String
deriving DecidableEq

namespace Lineage

/-- The lineage of a session. Empty ids count as absent. -/
def ofIds (sessionId : String) (parentId rootId : Option String) : Lineage where
  sessionId
  parentId := parentId.filter (· != "")
  rootId := (rootId.filter (· != "")).getD sessionId
  agent := agentOf? sessionId

def isRoot (l : Lineage) : Bool := l.parentId.isNone

def spawnReason (l : Lineage) : String := if l.isRoot then "root" else "delegate"

end Lineage

end SessionRecorder

import SessionRecorder.Json.Basic

/-!
One JSON value laid over another: objects member by member, anything else as a
whole. A null in the upper value leaves the lower one as it is.
-/

namespace SessionRecorder.Json

mutual

def merge (target : Json) : Json → Json
  | .object members =>
    match target with
    | .object below => .object (mergeMembers below members)
    | _ => .object members
  | source => source

/-- Members laid over the members `below`, one after the other. -/
def mergeMembers (below : List (String × Json)) : List (String × Json) → List (String × Json)
  | [] => below
  | (_, .null) :: rest => mergeMembers below rest
  | (key, value) :: rest =>
    let merged := match Assoc.find? key below with
      | some old => merge old value
      | none => value
    mergeMembers (Assoc.insert key merged below) rest

end

end SessionRecorder.Json

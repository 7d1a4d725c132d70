import SessionRecorder.Proofs.EventPayloads
import SessionRecorder.Proofs.EventReadBack

/-!
What becomes of the members that the data of an event has under the keys of the envelope. They are
left out of the recorded data, and what the envelope holds under its own tags comes from the session
and the clock. So the data can be put together again just where those members say the same as the
session and the clock. Of a member that says something else nothing is kept
(`parent_of_root_lost`). Main statement: `restored_iff_own_agree`.
-/

namespace SessionRecorder

/-- Entries made of keys by a function are found where the function gives a value. -/
theorem Assoc.find?_filterMap_keys {κ ν : Type} [Ord κ] [Std.LawfulEqOrd κ] [DecidableEq κ]
    (f : κ → Option ν) (k : κ) (keys : List κ) :
    find? k (keys.filterMap fun key => (f key).map (key, ·)) = if k ∈ keys then f k else none := by
  induction keys with
  | nil => rfl
  | cons key rest ih =>
    by_cases hk : k = key
    · subst hk
      cases hf : f k <;> simp [hf, ih, find?_cons_self]
    · cases hf : f key <;> simp [hf, ih, hk, find?_cons_of_ne hk]

namespace Envelope

/-- The tag under which the envelope holds what one of its own keys stands for. -/
def ownTag? : String → Option UInt64
  | "session_id" => some sessionTag
  | "parent_id" => some parentTag
  | "ts" => some timestampTag
  | _ => none

/-- What an envelope holds for one of its own keys. -/
def carried? (e : Payload) (key : String) : Option Json :=
  ((ownTag? key).bind e.get?).map Msgpack.toJson

/-- The members of the data that an envelope holds. -/
def recorded (e : Payload) : List (String × Json) :=
  match (e.get? dataTag).map Msgpack.toJson with
  | some (.object members) => members
  | _ => []

/-- The recorded members, together with those that an envelope holds for the given keys. -/
def restored (e : Payload) (keys : List String) : List (String × Json) :=
  (keys.filterMap fun key => (carried? e key).map (key, ·)).foldl
    (fun m (k, v) => Assoc.insert k v m) (recorded e)

/-- What the session and the clock say for the envelope's own keys. -/
def ownValue? (l : Lineage) (time : Int64) : String → Option Json
  | "session_id" => some (.string l.sessionId)
  | "parent_id" => l.parentId.map .string
  | "ts" => some (.int (.ofInt64 time))
  | _ => none

/-- The members under other keys than the envelope's own. -/
def others (members : List (String × Json)) : List (String × Json) :=
  members.filter fun (key, _) => !ownKeys.contains key

section

variable {event : String} {data : Json} {members : List (String × Json)} {l : Lineage}
  {time : Int64}

theorem ownValue?_of_not_mem {key : String} (h : key ∉ ownKeys) : ownValue? l time key = none := by
  simp only [ownKeys, List.mem_cons, List.not_mem_nil, or_false, not_or] at h
  unfold ownValue?
  split <;> simp_all

/-- Whatever the data says, the envelope holds what the session and the clock say. -/
theorem carried?_ofEvent (hdata : data.WellFormed) (key : String) :
    carried? (ofEvent event data l time) key = ownValue? l time key := by
  have hdescribes : Describes (ofEvent event data l time) event data l time :=
    describes_withSize hdata
  unfold carried? ownTag? ownValue?
  split
  · simp [hdescribes.session, Msgpack.toJson]
  · rw [Option.bind_some, hdescribes.parent]
    cases l.parentId <;> rfl
  · simp [hdescribes.time, Msgpack.sint, Msgpack.toJson]
  · rfl

theorem eventData_object (members : List (String × Json)) :
    eventData (.object members) = match others members with
      | [] => none
      | rest => some (.object rest) := rfl

theorem recorded_ofEvent (hdata : (Json.object members).WellFormed) :
    recorded (ofEvent event (.object members) l time) = others members := by
  have hdescribes : Describes (ofEvent event (.object members) l time) event _ l time :=
    describes_withSize hdata
  unfold recorded
  rw [hdescribes.data, eventData_object]
  cases others members <;> rfl

theorem find?_restored (hdata : (Json.object members).WellFormed) (key : String) :
    Assoc.find? key (restored (ofEvent event (.object members) l time) (members.map (·.1))) =
      if key ∈ ownKeys then (if key ∈ members.map (·.1) then ownValue? l time key else none)
      else Assoc.find? key members := by
  rw [restored, Assoc.find?_foldl_insert, recorded_ofEvent hdata, ← List.filterMap_reverse,
    Assoc.find?_filterMap_keys, others, Assoc.find?_filter_key (fun key => !ownKeys.contains key)]
  simp only [List.mem_reverse, carried?_ofEvent hdata]
  by_cases hown : key ∈ ownKeys
  · simp [hown]
  · simp [hown, ownValue?_of_not_mem hown]

/-- The members are compared key by key: only an own key that was there can differ. -/
theorem restored_eq_iff (hdata : (Json.object members).WellFormed) :
    restored (ofEvent event (.object members) l time) (members.map (·.1)) = members ↔
      ∀ key value, (key, value) ∈ members → key ∈ ownKeys →
        ownValue? l time key = some value := by
  constructor
  · intro heq key value hmember hown
    have hfind : Assoc.find? key (restored (ofEvent event (.object members) l time)
        (members.map (·.1))) = _ := find?_restored hdata key
    have hkey : key ∈ members.map (·.1) := List.mem_map_of_mem hmember
    rw [heq, if_pos hown, if_pos hkey, hdata.1.find?_eq_some_iff.2 hmember] at hfind
    exact hfind.symm
  · intro hagree
    have hascending : Assoc.Ascending (restored (ofEvent event (.object members) l time)
        (members.map (·.1))) := by
      rw [restored, recorded_ofEvent hdata]
      exact Assoc.ascending_foldl_insert _ (List.Pairwise.filter _ hdata.1)
    refine hascending.ext hdata.1 fun key => ?_
    rw [find?_restored hdata]
    split
    · rename_i hown
      split
      · rename_i hkey
        obtain ⟨⟨_, value⟩, hmember, rfl⟩ := List.mem_map.1 hkey
        rw [hagree _ value hmember hown, hdata.1.find?_eq_some_iff.2 hmember]
      · rename_i hkey
        exact (Assoc.find?_eq_none_iff.2 hkey).symm
    · rfl

/-- The members that a record holds under the envelope's own tags are those of the session and the
clock. The data is put together from the record just where its own members are the same, and other
data whose other members are the same has the same record. -/
theorem restored_iff_own_agree (event : String) (l : Lineage) (time : Int64)
    {members : List (String × Json)} (hdata : (Json.object members).WellFormed) :
    let e := ofEvent event (.object members) l time
    (∀ key ∈ ownKeys, carried? e key = ownValue? l time key) ∧
      (restored e (members.map (·.1)) = members ↔
        ∀ key value, (key, value) ∈ members → key ∈ ownKeys →
          ownValue? l time key = some value) ∧
      ∀ members', others members' = others members →
        ofEvent event (.object members') l time = e := by
  intro e
  refine ⟨fun key _ => carried?_ofEvent hdata key, restored_eq_iff hdata, fun members' h => ?_⟩
  have hsame : eventData (.object members') = eventData (.object members) := by
    rw [eventData_object, eventData_object, h]
  exact ofEvent_eq_iff.2 ⟨rfl, hsame, rfl⟩

theorem agreeing_members_restored :
    let members : List (String × Json) := [("parent_id", .string "root"),
      ("session_id", .string "child"), ("tool_name", .string "grep"), ("ts", .int (.ofInt64 5))]
    let e := ofEvent "tool:pre" (.object members) (.ofIds "child" (some "root") none) 5
    (Json.object members).WellFormed ∧ restored e (members.map (·.1)) = members := by
  intro members e
  have hdata : (Json.object members).WellFormed := by
    simp only [members, Json.WellFormed, Json.WellFormedMembers, Assoc.Ascending]
    decide
  refine ⟨hdata, (restored_iff_own_agree "tool:pre" _ 5 hdata).2.1.2 ?_⟩
  intro key value hmember hown
  simp only [members, List.mem_cons, Prod.mk.injEq, List.not_mem_nil, or_false] at hmember
  obtain ⟨rfl, rfl⟩ | ⟨rfl, rfl⟩ | ⟨rfl, rfl⟩ | ⟨rfl, rfl⟩ := hmember
  · rfl
  · rfl
  · exact absurd hown (by decide)
  · rfl

/-- A root session whose event names a parent: the record holds no parent, and is that of an event
without data. -/
theorem parent_of_root_lost :
    let e := ofEvent "session:fork" (.object [("parent_id", .string "parent")])
      (.ofIds "session" none none) 0
    e.get? parentTag = none ∧
      e = ofEvent "session:fork" (.object []) (.ofIds "session" none none) 0 := by
  intro e
  constructor
  · decide +kernel
  · exact ofEvent_eq_iff.2 ⟨rfl, rfl, rfl⟩

end

end Envelope

end SessionRecorder

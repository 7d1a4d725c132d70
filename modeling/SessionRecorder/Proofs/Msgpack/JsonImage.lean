import SessionRecorder.Msgpack.Json
import SessionRecorder.Proofs.Msgpack.Written

/-!
The image of JSON data among the values: what it takes to write and read it, in terms of the data,
and that the data comes back from it. Main statements: `within_ofJson` and `toJson_ofJson`.
-/

namespace SessionRecorder

namespace Json

/-! ## The size of data -/

mutual

/-- How many arrays and objects stand inside each other. -/
def nesting : Json → Nat
  | .array items => nestingItems items + 1
  | .object members => nestingMembers members + 1
  | _ => 0

def nestingItems : List Json → Nat
  | [] => 0
  | item :: rest => max item.nesting (nestingItems rest)

def nestingMembers : List (String × Json) → Nat
  | [] => 0
  | (_, value) :: rest => max value.nesting (nestingMembers rest)

end

mutual

/-- Whether every string, array and object is shorter than 2 ^ 32. -/
def short : Json → Bool
  | .string s => (Text.utf8 s).length < 2 ^ 32
  | .array items => items.length < 2 ^ 32 && shortItems items
  | .object members => members.length < 2 ^ 32 && shortMembers members
  | _ => true

def shortItems : List Json → Bool
  | [] => true
  | item :: rest => item.short && shortItems rest

def shortMembers : List (String × Json) → Bool
  | [] => true
  | (key, value) :: rest => (Text.utf8 key).length < 2 ^ 32 && value.short && shortMembers rest

end

theorem nestingMembers_le_iff {members : List (String × Json)} {n : Nat} :
    nestingMembers members ≤ n ↔ ∀ m ∈ members, m.2.nesting ≤ n := by
  induction members with
  | nil => simp [nestingMembers]
  | cons m rest ih => rw [nestingMembers, Nat.max_le, ih, List.forall_mem_cons]

theorem shortMembers_iff {members : List (String × Json)} :
    shortMembers members = true ↔
      ∀ m ∈ members, (Text.utf8 m.1).length < 2 ^ 32 ∧ m.2.short = true := by
  induction members with
  | nil => simp [shortMembers]
  | cons m rest ih => simp [shortMembers, ih]

theorem wellFormedMembers_iff {members : List (String × Json)} :
    WellFormedMembers members ↔ ∀ m ∈ members, m.2.WellFormed := by
  induction members with
  | nil => simp [WellFormedMembers]
  | cons m rest ih => simp [WellFormedMembers, ih]

/-! ## Objects without some of their members -/

section

variable (members : List (String × Json)) (p : String × Json → Bool)

theorem nesting_filter_le : (object (members.filter p)).nesting ≤ (object members).nesting := by
  have hmembers := nestingMembers_le_iff.1 (Nat.le_refl (nestingMembers members))
  exact Nat.succ_le_succ <| nestingMembers_le_iff.2 fun m hm => hmembers m (List.mem_filter.1 hm).1

theorem short_filter (h : (object members).short = true) :
    (object (members.filter p)).short = true := by
  simp only [short, Bool.and_eq_true, decide_eq_true_eq] at h ⊢
  exact ⟨Nat.lt_of_le_of_lt (List.length_filter_le p members) h.1,
    shortMembers_iff.2 fun m hm => shortMembers_iff.1 h.2 m (List.mem_filter.1 hm).1⟩

theorem wellFormed_filter (h : (object members).WellFormed) :
    (object (members.filter p)).WellFormed :=
  ⟨List.Pairwise.filter p h.1,
    wellFormedMembers_iff.2 fun m hm => wellFormedMembers_iff.1 h.2 m (List.mem_filter.1 hm).1⟩

end

end Json

namespace Msgpack

/-! ## What the image takes -/

theorem length_ofJsonItems (items : List Json) : (ofJsonItems items).length = items.length := by
  induction items with
  | nil => rfl
  | cons item rest ih => rw [ofJsonItems, List.length_cons, List.length_cons, ih]

theorem length_ofJsonMembers (members : List (String × Json)) :
    (ofJsonMembers members).length = members.length := by
  induction members with
  | nil => rfl
  | cons m rest ih => rw [ofJsonMembers, List.length_cons, List.length_cons, ih]

mutual

theorem fits_ofJson (data : Json) : (ofJson data).fits = data.short := by
  cases data with
  | array items =>
    rw [ofJson, fits, Json.short, length_ofJsonItems, fitsItems_ofJsonItems]
  | object members =>
    rw [ofJson, fits, Json.short, length_ofJsonMembers, fitsEntries_ofJsonMembers]
  | _ => rfl

theorem fitsItems_ofJsonItems (items : List Json) :
    fitsItems (ofJsonItems items) = Json.shortItems items := by
  cases items with
  | nil => rfl
  | cons item rest =>
    rw [ofJsonItems, fitsItems, Json.shortItems, fits_ofJson item, fitsItems_ofJsonItems rest]

theorem fitsEntries_ofJsonMembers (members : List (String × Json)) :
    fitsEntries (ofJsonMembers members) = Json.shortMembers members := by
  match members with
  | [] => rfl
  | (key, value) :: rest =>
    rw [ofJsonMembers, fitsEntries, Json.shortMembers, fits_ofJson value,
      fitsEntries_ofJsonMembers rest, fits]

end

mutual

theorem cost_ofJson_le (data : Json) : (ofJson data).cost ≤ 2 * data.nesting + 3 := by
  cases data with
  | array items =>
    have hitems := costItems_ofJsonItems_le items
    rw [ofJson, cost, Json.nesting]
    omega
  | object members =>
    have hmembers := costEntries_ofJsonMembers_le members
    rw [ofJson, cost, Json.nesting]
    omega
  | _ =>
    simp only [ofJson, cost, Json.nesting]
    omega

theorem costItems_ofJsonItems_le (items : List Json) :
    costItems (ofJsonItems items) ≤ 2 * Json.nestingItems items + 3 := by
  cases items with
  | nil => exact Nat.zero_le _
  | cons item rest =>
    have hitem := cost_ofJson_le item
    have hrest := costItems_ofJsonItems_le rest
    rw [ofJsonItems, costItems, Json.nestingItems]
    omega

theorem costEntries_ofJsonMembers_le (members : List (String × Json)) :
    costEntries (ofJsonMembers members) ≤ 2 * Json.nestingMembers members + 3 := by
  match members with
  | [] => exact Nat.zero_le _
  | (key, value) :: rest =>
    have hvalue := cost_ofJson_le value
    have hrest := costEntries_ofJsonMembers_le rest
    rw [ofJsonMembers, costEntries, cost, Json.nestingMembers]
    omega

end

theorem within_ofJson {data : Json} (hshort : data.short = true) {budget : Nat}
    (hbudget : 2 * data.nesting + 3 ≤ budget) : (ofJson data).Within budget :=
  ⟨(fits_ofJson data).trans hshort, Nat.le_trans (cost_ofJson_le data) hbudget⟩

/-! ## The way back -/

mutual

/-- Data with ascending keys and finite numbers comes back from its image. -/
theorem toJson_ofJson (data : Json) (h : data.WellFormed) : (ofJson data).toJson = data := by
  cases data with
  | double x => exact if_pos h
  | array items => exact congrArg Json.array (toJsonItems_ofJsonItems items h)
  | object members =>
    rw [ofJson, toJson, toJsonMembers_ofJsonMembers members h.2, Json.ofMembers,
      Assoc.ofList_of_ascending h.1]
  | _ => rfl

theorem toJsonItems_ofJsonItems (items : List Json) (h : Json.WellFormedItems items) :
    toJsonItems (ofJsonItems items) = items := by
  cases items with
  | nil => rfl
  | cons item rest =>
    rw [ofJsonItems, toJsonItems, toJson_ofJson item h.1, toJsonItems_ofJsonItems rest h.2]

theorem toJsonMembers_ofJsonMembers (members : List (String × Json))
    (h : Json.WellFormedMembers members) : toJsonMembers (ofJsonMembers members) = members := by
  match members with
  | [] => rfl
  | (key, value) :: rest =>
    rw [ofJsonMembers, toJsonMembers, toJson_ofJson value h.1,
      toJsonMembers_ofJsonMembers rest h.2, jsonKey]

end

end Msgpack

end SessionRecorder

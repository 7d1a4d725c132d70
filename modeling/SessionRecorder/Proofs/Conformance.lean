import Mathlib.Data.List.Forall2
import Mathlib.Data.List.Nodup
import SessionRecorder.Record.Item
import SessionRecorder.Registry.Bundle

/-!
When a value has a declared shape: every tag in it is declared and stands over a value of the
shape declared for it, and no required tag is missing (`admits_map_iff`). A payload that is made
of fields has the shape of a map when its fields stand, one by one, under the declared ones
(`admits_ofFields`).
-/

namespace SessionRecorder

mutual

/-- Whether a value has a shape. -/
def Shape.admits : Shape → Msgpack → Bool
  | .string, .str _ => true
  | .u64, value => value.asUInt?.isSome
  | .bool, .bool _ => true
  | .anyMap, .map _ => true
  | .map fields, .map entries =>
    entries.all (fun e => declared fields e.1 e.2) &&
      fields.all fun f => f.optional || entries.any fun e => e.1.asUInt? == some f.tag
  | .array items, .array values => values.all items.admits
  | _, _ => false

/-- Whether a key is a declared tag, with a value of the shape that is declared for it. -/
def declared : List TaggedField → Msgpack → Msgpack → Bool
  | [], _, _ => false
  | .mk tag _ shape _ :: rest, key, value =>
    (key.asUInt? == some tag && shape.admits value) || declared rest key value

end

theorem declared_iff {fields : List TaggedField} {key value : Msgpack} :
    declared fields key value = true ↔
      ∃ f ∈ fields, key.asUInt? = some f.tag ∧ f.shape.admits value = true := by
  induction fields with
  | nil => simp [declared]
  | cons f rest ih =>
    obtain ⟨tag, name, shape, optional⟩ := f
    simp [declared, ih, TaggedField.tag, TaggedField.shape]

/-- A map has a shape with declared tags when each of its entries is declared, and each tag that
is declared and not optional has an entry. -/
theorem admits_map_iff {fields : List TaggedField} {entries : List (Msgpack × Msgpack)} :
    (Shape.map fields).admits (.map entries) = true ↔
      (∀ e ∈ entries, ∃ f ∈ fields, e.1.asUInt? = some f.tag ∧ f.shape.admits e.2 = true) ∧
      ∀ f ∈ fields, f.optional = false → ∃ e ∈ entries, e.1.asUInt? = some f.tag := by
  have hdeclared : (entries.all fun e => declared fields e.1 e.2) = true ↔
      ∀ e ∈ entries, ∃ f ∈ fields, e.1.asUInt? = some f.tag ∧ f.shape.admits e.2 = true := by
    simp only [List.all_eq_true, declared_iff]
  have hrequired : (fields.all fun f => f.optional || entries.any fun e =>
        e.1.asUInt? == some f.tag) = true ↔
      ∀ f ∈ fields, f.optional = false → ∃ e ∈ entries, e.1.asUInt? = some f.tag := by
    simp only [List.all_eq_true, Bool.or_eq_true, List.any_eq_true, beq_iff_eq]
    refine forall₂_congr fun f _ => ?_
    cases f.optional <;> simp
  simp only [Shape.admits, Bool.and_eq_true, hdeclared, hrequired]

/-! ## Payloads that are made of fields -/

/-- What is written under a tag is as declared: a value of the shape, or nothing if the field is
optional. -/
def TaggedField.Stands (f : TaggedField) (written : UInt64 × Option Msgpack) : Prop :=
  match written.2 with
  | none => f.optional = true
  | some value => f.shape.admits value = true

theorem TaggedField.stands_some {f : TaggedField} {w : UInt64 × Option Msgpack} {value : Msgpack}
    (h : w.2 = some value) : f.Stands w ↔ f.shape.admits value = true := by
  simp only [Stands, h]

theorem TaggedField.stands_none {f : TaggedField} {w : UInt64 × Option Msgpack}
    (h : w.2 = none) : f.Stands w ↔ f.optional = true := by
  simp only [Stands, h]

theorem tag_of_mem_zip {fields : List TaggedField} {written : List (UInt64 × Option Msgpack)}
    (htags : fields.map (·.tag) = written.map (·.1)) {f : TaggedField}
    {w : UInt64 × Option Msgpack} (h : (f, w) ∈ fields.zip written) : f.tag = w.1 := by
  induction fields generalizing written with
  | nil => cases h
  | cons g fields ih =>
    cases written with
    | nil => cases h
    | cons v written =>
      simp only [List.map_cons, List.cons.injEq] at htags
      rcases List.mem_cons.1 h with heq | hrest
      · cases heq
        exact htags.1
      · exact ih htags.2 hrest

theorem Payload.ofFields_some (entries : List (UInt64 × Msgpack)) :
    ofFields (entries.map fun e => (e.1, some e.2)) = ofList entries := by
  simp [ofFields, List.filterMap_map]

/-- The entries that fields are written as. -/
def entriesOf (written : List (UInt64 × Option Msgpack)) : List (Msgpack × Msgpack) :=
  written.filterMap fun (tag, value) => value.map (Msgpack.uint tag, ·)

theorem toMap_ofFields {written : List (UInt64 × Option Msgpack)}
    (hascending : (written.map (·.1)).Pairwise fun a b => compare a b = .lt) :
    (Payload.ofFields written).toMap = .map (entriesOf written) := by
  rw [Payload.toMap, Payload.entries_ofFields hascending, List.map_filterMap, entriesOf]
  refine congrArg Msgpack.map (List.filterMap_congr ?_)
  rintro ⟨tag, value⟩ _
  cases value <;> rfl

theorem mem_entriesOf {written : List (UInt64 × Option Msgpack)} {e : Msgpack × Msgpack} :
    e ∈ entriesOf written ↔ ∃ w ∈ written, ∃ value, w.2 = some value ∧ (.uint w.1, value) = e := by
  simp only [entriesOf, List.mem_filterMap, Option.map_eq_some_iff]

/-- A payload that is made of fields has the shape of a map if each of them stands. The fields
are given under every declared tag, in order. -/
theorem admits_ofFields {fields : List TaggedField} {written : List (UInt64 × Option Msgpack)}
    (hascending : (fields.map (·.tag)).Pairwise fun a b => compare a b = .lt)
    (htags : fields.map (·.tag) = written.map (·.1)) :
    (Shape.map fields).admits (Payload.ofFields written).toMap = true ↔
      List.Forall₂ TaggedField.Stands fields written := by
  have hlength : fields.length = written.length := by
    simpa using congrArg List.length htags
  have hnodup : (fields.map (·.tag)).Nodup := by
    refine hascending.imp ?_
    rintro a _ hlt rfl
    rw [Std.compare_self] at hlt
    cases hlt
  -- The declared and the written field of one tag are the two of one place.
  have hfield {f g : TaggedField} (hf : f ∈ fields) (hg : g ∈ fields) (h : f.tag = g.tag) :
      f = g := List.inj_on_of_nodup_map hnodup hf hg h
  have hwritten {v w : UInt64 × Option Msgpack} (hv : v ∈ written) (hw : w ∈ written)
      (h : v.1 = w.1) : v = w := List.inj_on_of_nodup_map (htags ▸ hnodup) hv hw h
  rw [toMap_ofFields (htags ▸ hascending), admits_map_iff, List.forall₂_iff_zip]
  constructor
  · rintro ⟨hdeclared, hrequired⟩
    refine ⟨hlength, ?_⟩
    intro f w hp
    have htag := tag_of_mem_zip htags hp
    obtain ⟨hf, hw⟩ := List.of_mem_zip hp
    cases hvalue : w.2 with
    | none =>
      rw [TaggedField.stands_none hvalue]
      cases hoptional : f.optional with
      | true => rfl
      | false =>
        obtain ⟨e, he, hkey⟩ := hrequired f hf hoptional
        obtain ⟨v, hv, value, hsome, rfl⟩ := mem_entriesOf.1 he
        simp only [Msgpack.asUInt?_uint, Option.some.injEq] at hkey
        rw [hwritten hv hw (hkey.trans htag), hvalue] at hsome
        cases hsome
    | some value =>
      rw [TaggedField.stands_some hvalue]
      obtain ⟨g, hg, hkey, hadmits⟩ :=
        hdeclared (.uint w.1, value) (mem_entriesOf.2 ⟨w, hw, value, hvalue, rfl⟩)
      simp only [Msgpack.asUInt?_uint, Option.some.injEq] at hkey
      rw [hfield hf hg (htag.trans hkey)]
      exact hadmits
  · rintro ⟨_, hstands⟩
    constructor
    · intro e he
      obtain ⟨w, hw, value, hvalue, rfl⟩ := mem_entriesOf.1 he
      rw [← List.map_snd_zip (Nat.le_of_eq hlength.symm)] at hw
      obtain ⟨⟨f, v⟩, hp, hv⟩ := List.mem_map.1 hw
      obtain rfl : v = w := hv
      exact ⟨f, (List.of_mem_zip hp).1, by rw [Msgpack.asUInt?_uint, tag_of_mem_zip htags hp],
        (TaggedField.stands_some hvalue).1 (hstands hp)⟩
    · intro f hf hoptional
      rw [← List.map_fst_zip (Nat.le_of_eq hlength)] at hf
      obtain ⟨⟨g, w⟩, hp, hg⟩ := List.mem_map.1 hf
      obtain rfl : g = f := hg
      cases hvalue : w.2 with
      | none =>
        have hstand := (TaggedField.stands_none hvalue).1 (hstands hp)
        rw [hoptional] at hstand
        cases hstand
      | some value =>
        exact ⟨(.uint w.1, value), mem_entriesOf.2 ⟨w, (List.of_mem_zip hp).2, value, hvalue, rfl⟩,
          by rw [Msgpack.asUInt?_uint, tag_of_mem_zip htags hp]⟩

/-! ## Values of the declared shapes -/

namespace Shape

@[simp] theorem admits_str (s : String) : Shape.string.admits (.str s) = true := rfl

@[simp] theorem admits_uint (n : UInt64) : u64.admits (.uint n) = true := by
  simp [admits]

/-- A signed number is admitted if it is not negative. -/
@[simp] theorem admits_sint (n : Int64) : u64.admits (.sint n) = true ↔ 0 ≤ n := by
  have hle : 0 ≤ n ↔ 0 ≤ n.toInt := Int64.le_iff_toInt_le
  rw [hle]
  simp only [admits, Msgpack.sint, Msgpack.asUInt?, WordInt.toUInt64?, WordInt.ofInt64]
  split <;> simp_all

@[simp] theorem admits_bool (b : Bool) : Shape.bool.admits (.bool b) = true := rfl

@[simp] theorem admits_anyMap (entries : List (Msgpack × Msgpack)) :
    anyMap.admits (.map entries) = true := rfl

@[simp] theorem admits_array (items : Shape) (values : List Msgpack) :
    (array items).admits (.array values) = true ↔ ∀ v ∈ values, items.admits v = true := by
  simp [admits]

end Shape

namespace TaggedField

variable {tag t : UInt64} {name : String} {shape : Shape} {optional : Bool}

@[simp] theorem stands_written {value : Msgpack} :
    (mk tag name shape optional).Stands (t, some value) ↔ shape.admits value = true := Iff.rfl

@[simp] theorem stands_left_out : (mk tag name shape optional).Stands (t, none) ↔
    optional = true := Iff.rfl

/-- What may be left out stands if it is as declared where it is given. -/
theorem stands_given {value : Option Msgpack} : (mk tag name shape true).Stands (t, value) ↔
    ∀ v, value = some v → shape.admits v = true := by
  cases value <;> simp

@[simp] theorem stands_optional {α : Type} {value : Option α} {write : α → Msgpack} :
    (mk tag name shape true).Stands (t, value.map write) ↔
      ∀ a, value = some a → shape.admits (write a) = true := by
  cases value <;> simp

end TaggedField

/-! ## Items and the types of the bundle -/

/-- All parts that an item can have, each under its tag. -/
def Item.parts (input turn system event metadata : Option Msgpack) :
    List (UInt64 × Option Msgpack) :=
  [(inputTag, input), (turnTag, turn), (systemTag, system), (eventTag, event),
    (metadataTag, metadata)]

/-- An item has the declared shape if its time is not negative and each of its parts has the
shape of its own. -/
theorem item_admits_iff (kind session label : String) (time : Int64)
    (input turn system event metadata : Option Msgpack) :
    (Shape.map Bundle.conversationItem).admits (Item.complete kind session label time
        (Item.parts input turn system event metadata)).toMap = true ↔ 0 ≤ time ∧
      (∀ v, input = some v →
        (Shape.map [Bundle.required 1 "text" .string]).admits v = true) ∧
      (∀ v, turn = some v → (Shape.map Bundle.assistantTurn).admits v = true) ∧
      (∀ v, system = some v → (Shape.map Bundle.systemPart).admits v = true) ∧
      (∀ v, event = some v → (Shape.map Bundle.envelope).admits v = true) ∧
      ∀ v, metadata = some v → (Shape.map Bundle.contextMetadata).admits v = true := by
  rw [Item.complete, Item.parts, admits_ofFields (by decide) rfl]
  simp [Bundle.conversationItem, Bundle.required, Bundle.optional, TaggedField.stands_given]

theorem systemPart_admits (kind : SystemKind) (title content : String) :
    (Shape.map Bundle.systemPart).admits (Item.systemPart kind title content) = true := by
  rw [Item.systemPart, ← Payload.ofFields_some, admits_ofFields (by decide) rfl]
  simp [Bundle.systemPart, Bundle.required]

namespace Bundle

/-- Whether a record is as the bundle describes its type. -/
def describes (r : Record) : Bool :=
  match types.lookup r.type with
  | some fields => (Shape.map fields).admits r.payload.toMap
  | none => false

theorem describes_item (item : Payload) :
    describes ⟨.conversationItem, item⟩ = (Shape.map conversationItem).admits item.toMap := rfl

/-- The flat records of every class of events are described as envelopes. -/
theorem describes_event (c : EventClass) (payload : Payload) :
    describes ⟨c.recordType, payload⟩ = (Shape.map envelope).admits payload.toMap := by
  have hlookup : types.lookup c.recordType = some envelope := by cases c <;> rfl
  simp only [describes, hlookup]

end Bundle

end SessionRecorder

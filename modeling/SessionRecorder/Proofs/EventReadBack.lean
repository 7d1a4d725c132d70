import SessionRecorder.Proofs.Conformance
import SessionRecorder.Proofs.Msgpack.JsonImage
import SessionRecorder.Proofs.Msgpack.LongText
import SessionRecorder.Proofs.Payloads

/-!
What is recorded about an event can be read again: name, session, time and data stand under their
tags in the envelope that the payload is or holds, and nothing else does but the size. This takes
texts whose lengths have fields. The JSON text of the data is one of them where it is recorded as
well, and where it is too long for a field the envelope behind it is lost. Main statements:
`deserialize_ofEvent` and `envelope_lost`.
-/

namespace SessionRecorder

open Msgpack Text

/-! ## Payloads of fields -/

namespace Payload

section

variable {fields : List (UInt64 × Option Msgpack)}
  (hascending : (fields.map (·.1)).Pairwise fun a b => compare a b = .lt)

include hascending

theorem within_ofFields {budget : Nat} (hlength : fields.length < 2 ^ 32) (hbudget : 0 < budget)
    (h : ∀ tag value, (tag, some value) ∈ fields → value.Within budget) :
    (ofFields fields).toMap.Within (budget + 2) := by
  rw [toMap_ofFields hascending, within_map_iff]
  refine ⟨Nat.lt_of_le_of_lt (List.length_filterMap_le _ _) hlength, fun e he => ?_⟩
  obtain ⟨⟨tag, _⟩, hmem, value, rfl, rfl⟩ := mem_entriesOf.1 he
  exact ⟨within_int _ hbudget, h tag value hmem⟩

/-- A field is found under its tag. -/
theorem get?_ofFields (tag : UInt64) :
    (ofFields fields).get? tag = (fields.lookup tag).join := by
  rw [get?, entries_ofFields hascending]
  induction fields with
  | nil => rfl
  | cons field rest ih =>
    obtain ⟨own, value⟩ := field
    obtain ⟨hbelow, hrest⟩ := List.pairwise_cons.1 hascending
    rw [List.lookup_cons]
    by_cases htag : tag = own
    · subst htag
      rw [BEq.rfl, Option.join_some]
      cases value with
      | some v => exact Assoc.find?_cons_self tag v _
      | none =>
        rw [List.filterMap_cons_none rfl]
        refine Assoc.find?_of_all_lt fun e he => ?_
        obtain ⟨⟨t, _⟩, hmem, hvalue⟩ := List.mem_filterMap.1 he
        obtain ⟨v, rfl, rfl⟩ := Option.map_eq_some_iff.1 hvalue
        exact hbelow t (List.mem_map_of_mem hmem)
    · rw [beq_false_of_ne htag, ← ih hrest]
      cases value with
      | some v => exact Assoc.find?_cons_of_ne htag v _
      | none => rfl

theorem get?_ofFields_eq_none {tag : UInt64} (h : tag ∉ fields.map (·.1)) :
    (ofFields fields).get? tag = none := by
  have hlookup : fields.lookup tag = none := by
    refine List.lookup_eq_none_iff.2 fun field hfield => ?_
    have hne : tag ≠ field.1 := fun heq => h (heq ▸ List.mem_map_of_mem hfield)
    exact bne_iff_ne.2 hne
  rw [get?_ofFields hascending, hlookup]
  rfl

end

theorem get?_ofList (tag : UInt64) (entries : List (UInt64 × Msgpack)) :
    (ofList entries).get? tag = Assoc.find? tag entries.reverse :=
  Assoc.find?_ofList tag entries

theorem deserialize_of_ofBytes {bs : Bytes} {entries : List (UInt64 × Msgpack)}
    (h : Msgpack.ofBytes bs = .ok (.map (entries.map fun e => (uint e.1, e.2)))) :
    deserialize bs = .ok (ofList entries) := by
  rw [deserialize, h]
  change (ofEntries? _).map ofList = _
  rw [ofEntries?_map_uint]
  rfl

end Payload

/-! ## The envelope -/

namespace Envelope

variable {event : String} {data : Json} {l : Lineage} {time : Int64}

/-- Data is recorded as it is or, if it is an object, without some of its members. -/
theorem eventData_cases {d : Json} (h : eventData data = some d) : d = data ∨
    ∃ members p, data = .object members ∧ d = .object (members.filter p) := by
  unfold eventData at h
  split at h
  · cases h
  · rename_i members
    split at h
    · cases h
    · cases h
      exact .inr ⟨members, _, rfl, rfl⟩
  · exact .inl (Option.some.inj h).symm

theorem wellFormed_eventData (hdata : data.WellFormed) {d : Json} (h : eventData data = some d) :
    d.WellFormed := by
  obtain rfl | ⟨members, p, rfl, rfl⟩ := eventData_cases h
  · exact hdata
  · exact Json.wellFormed_filter members p hdata

theorem nesting_eventData_le {d : Json} (h : eventData data = some d) :
    d.nesting ≤ data.nesting := by
  obtain rfl | ⟨members, p, rfl, rfl⟩ := eventData_cases h
  · exact Nat.le_refl _
  · exact Json.nesting_filter_le members p

theorem short_eventData (hdata : data.short = true) {d : Json} (h : eventData data = some d) :
    d.short = true := by
  obtain rfl | ⟨members, p, rfl, rfl⟩ := eventData_cases h
  · exact hdata
  · exact Json.short_filter members p hdata

/-- Whether a payload holds just what an envelope says about an event, its size aside. -/
structure Describes (e : Payload) (event : String) (data : Json) (l : Lineage) (time : Int64) :
    Prop where
  event : e.get? eventTag = some (.str event)
  session : e.get? sessionTag = some (.str l.sessionId)
  parent : e.get? parentTag = l.parentId.map .str
  time : e.get? timestampTag = some (.sint time)
  agent : e.get? agentTag = l.agent.map .str
  data : (e.get? dataTag).map Msgpack.toJson = eventData data
  root : e.get? rootTag = some (.str l.rootId)
  rest : ∀ tag, tag ∉ [eventTag, sessionTag, parentTag, timestampTag, agentTag, sizeTag, dataTag,
    rootTag] → e.get? tag = none

variable {size : UInt64}

theorem describes_withSize (hdata : data.WellFormed) :
    Describes (withSize size event data l time) event data l time := by
  have hget (tag : UInt64) : (withSize size event data l time).get? tag = _ :=
    Payload.get?_ofFields (by simp only [List.map_cons, List.map_nil]; decide) tag
  have hback : ((eventData data).map ofJson).map toJson = eventData data := by
    cases hd : eventData data with
    | none => rfl
    | some d => exact congrArg some (toJson_ofJson d (wellFormed_eventData hdata hd))
  exact {
    event := hget eventTag
    session := hget sessionTag
    parent := hget parentTag
    time := hget timestampTag
    agent := hget agentTag
    data := (congrArg (Option.map toJson) (hget dataTag)).trans hback
    root := hget rootTag
    rest := fun tag htag => Payload.get?_ofFields_eq_none
      (by simp only [List.map_cons, List.map_nil]; decide) htag }

/-- The texts of an envelope outside the data of the event. -/
def texts (event : String) (l : Lineage) : List String :=
  [event, l.sessionId, l.rootId] ++ l.parentId.toList ++ l.agent.toList

theorem within_withSize (htexts : ∀ text ∈ texts event l, (utf8 text).length < 2 ^ 32)
    (hshort : data.short = true) {budget : Nat} (hbudget : 2 * data.nesting + 3 ≤ budget) :
    (withSize size event data l time).toMap.Within (budget + 2) := by
  have hstr {text : String} (h : text ∈ texts event l) : (str text).Within budget :=
    within_str (htexts text h) (by omega)
  refine Payload.within_ofFields (by simp only [List.map_cons, List.map_nil]; decide)
    (by simp only [List.length_cons, List.length_nil]; decide) (by omega) ?_
  intro tag value hmem
  simp only [List.mem_cons, Prod.mk.injEq, List.not_mem_nil, or_false, Option.some.injEq] at hmem
  obtain ⟨_, rfl⟩ | ⟨_, rfl⟩ | ⟨_, h⟩ | ⟨_, rfl⟩ | ⟨_, h⟩ | ⟨_, rfl⟩ | ⟨_, h⟩ | ⟨_, rfl⟩ := hmem
  · exact hstr (by simp [texts])
  · exact hstr (by simp [texts])
  · obtain ⟨parent, hparent, rfl⟩ := Option.map_eq_some_iff.1 h.symm
    exact hstr (by simp [texts, hparent])
  · exact within_int _ (by omega)
  · obtain ⟨agent, hagent, rfl⟩ := Option.map_eq_some_iff.1 h.symm
    exact hstr (by simp [texts, hagent])
  · exact within_int _ (by omega)
  · obtain ⟨d, hd, rfl⟩ := Option.map_eq_some_iff.1 h.symm
    have hnesting := nesting_eventData_le hd
    exact within_ofJson (short_eventData hshort hd) (by omega)
  · exact hstr (by simp [texts])

end Envelope

/-! ## The item around it -/

namespace Item

variable {event : String} {data : Json} {l : Lineage} {time : Int64}

def eventTitle (event : String) (l : Lineage) : String :=
  (l.agent.map fun agent => s!"[{agent}] {event}").getD event

/-- The JSON text of the data that is recorded. -/
def eventContent (data : Json) : String :=
  ((Envelope.eventData data).map Json.compact).getD "\x7b\x7d"

theorem ofEvent_eq : ofEvent event data l time = complete "system" l.sessionId event time [
    (systemTag, some (systemPart (.ofEvent event) (eventTitle event l) (eventContent data))),
    (Item.eventTag, some (Envelope.ofEvent event data l time).toMap)] := by
  unfold ofEvent eventTitle eventContent
  cases l.agent <;> cases Envelope.eventData data <;> rfl

theorem systemPart_eq (kind : SystemKind) (title content : String) :
    systemPart kind title content = .map [(uint systemKindTag, .str kind.name),
      (uint systemTitleTag, .str title), (uint systemContentTag, .str content)] := rfl

theorem length_utf8_id_lt (session label : String) (time : Int64) :
    (utf8 (id session label time)).length < 2 ^ 32 := by
  have hutf8 := length_utf8_ofList_le <|
    (Digest.sha256 (utf8 (idText session label time))).octets.hex.toList.take 24
  have htake := List.length_take_le 24
    (Digest.sha256 (utf8 (idText session label time))).octets.hex.toList
  unfold id Text.take
  omega

theorem length_utf8_name_lt (kind : SystemKind) : (utf8 kind.name).length < 2 ^ 32 := by
  cases kind <;> decide

theorem within_systemPart {kind : SystemKind} {title content : String} {budget : Nat}
    (htitle : (utf8 title).length < 2 ^ 32) (hcontent : (utf8 content).length < 2 ^ 32)
    (hbudget : 3 ≤ budget) : (systemPart kind title content).Within (budget + 2) := by
  have htag (tag : UInt64) : (uint tag).Within budget := within_int _ (by omega)
  rw [systemPart_eq, within_map_iff]
  refine ⟨by simp, ?_⟩
  simp only [List.forall_mem_cons, List.not_mem_nil, false_implies, implies_true, and_true]
  exact ⟨⟨htag _, within_str (length_utf8_name_lt kind) hbudget⟩,
    ⟨htag _, within_str htitle hbudget⟩, ⟨htag _, within_str hcontent hbudget⟩⟩

theorem within_ofEvent (htexts : ∀ text ∈ Envelope.texts event l, (utf8 text).length < 2 ^ 32)
    (htitle : (utf8 (eventTitle event l)).length < 2 ^ 32)
    (hcontent : (utf8 (eventContent data)).length < 2 ^ 32) (hshort : data.short = true)
    {budget : Nat} (hbudget : 2 * data.nesting + 3 ≤ budget) :
    (ofEvent event data l time).toMap.Within (budget + 2 + 2) := by
  rw [ofEvent_eq]
  refine Payload.within_ofFields
    (by simp only [List.map_cons, List.map_nil, List.cons_append, List.nil_append]; decide)
    (by simp only [List.length_append, List.length_cons, List.length_nil]; decide) (by omega) ?_
  intro tag value hmem
  simp only [List.cons_append, List.nil_append, List.mem_cons, Prod.mk.injEq, List.not_mem_nil,
    or_false, Option.some.injEq] at hmem
  obtain ⟨_, rfl⟩ | ⟨_, rfl⟩ | ⟨_, rfl⟩ | ⟨_, rfl⟩ | ⟨_, rfl⟩ | ⟨_, rfl⟩ := hmem
  · exact within_str (by decide) (by omega)
  · exact within_str (by decide) (by omega)
  · exact within_int _ (by omega)
  · exact within_str (length_utf8_id_lt ..) (by omega)
  · exact within_systemPart htitle hcontent (by omega)
  · exact Envelope.within_withSize htexts hshort hbudget

end Item

/-! ## Reading a record -/

namespace Record

variable {shape : RecordShape} {event : String} {data : Json} {l : Lineage} {time : Int64}

/-- The texts of a record outside the data of the event. -/
def texts (shape : RecordShape) (event : String) (data : Json) (l : Lineage) : List String :=
  Envelope.texts event l ++
    if shape = .conversationItem then [Item.eventTitle event l, Item.eventContent data] else []

theorem readable_ofEvent (hnesting : data.nesting ≤ 128) (hshort : data.short = true)
    (htexts : ∀ text ∈ texts shape event data l, (utf8 text).length < 2 ^ 32) :
    (ofEvent shape event data l time).payload.Readable := by
  have henvelope : ∀ text ∈ Envelope.texts event l, (utf8 text).length < 2 ^ 32 :=
    fun text h => htexts text (List.mem_append_left _ h)
  have hbudget : 2 * data.nesting + 3 ≤ 259 := by omega
  cases shape with
  | envelope =>
    have hwithin := @Envelope.within_withSize event data l time
      (.ofNat (Envelope.withSize 0 event data l time).serialize.length) henvelope hshort _ hbudget
    exact ⟨hwithin.1, Nat.le_trans hwithin.2 (by decide)⟩
  | conversationItem =>
    have hwithin := @Item.within_ofEvent event data l time henvelope
      (htexts _ (by simp [texts])) (htexts _ (by simp [texts])) hshort _ hbudget
    exact ⟨hwithin.1, Nat.le_trans hwithin.2 (by decide)⟩

/-- Where every text and every part of the data is shorter than 2 ^ 32, the octets recorded for
an event are read as the envelope of the event or as an item that holds it. -/
theorem deserialize_ofEvent (hdata : data.WellFormed) (hnesting : data.nesting ≤ 128)
    (hshort : data.short = true)
    (htexts : ∀ text ∈ texts shape event data l, (utf8 text).length < 2 ^ 32) :
    ∃ p e : Payload,
      Payload.deserialize (ofEvent shape event data l time).payload.serialize = .ok p ∧
      (shape = .envelope → e = p) ∧
      (shape = .conversationItem → p.get? Item.eventTag = some e.toMap) ∧
      Envelope.Describes e event data l time := by
  have hread := Payload.deserialize_serialize_append
    (@readable_ofEvent shape event data l time hnesting hshort htexts) []
  rw [List.append_nil] at hread
  refine ⟨_, Envelope.ofEvent event data l time, hread, ?_, ?_, Envelope.describes_withSize hdata⟩
  · rintro rfl
    rfl
  · rintro rfl
    change (Item.ofEvent event data l time).get? Item.eventTag = _
    rw [Item.ofEvent_eq, Item.complete, Payload.get?_ofFields
      (by simp only [List.map_cons, List.map_nil, List.cons_append, List.nil_append]; decide)]
    rfl

/-- Data with a key of the envelope's own, a negative number, a whole double and nesting. -/
theorem nested_data_read_back :
    let data : Json := .object [
      ("args", .array [.int (.ofInt64 (-7)), .double (.ofInt 3), .object [], .null]),
      ("session_id", .string "other"),
      ("tool_name", .string "grep")]
    let l : Lineage := ⟨"root_zen", some "root", "root", some "zen"⟩
    data.WellFormed ∧ data.nesting ≤ 128 ∧ data.short = true ∧
    (∀ text ∈ texts .conversationItem "tool:pre" data l, (utf8 text).length < 2 ^ 32) ∧
    ∃ p e : Payload, Payload.deserialize
        (ofEvent .conversationItem "tool:pre" data l (-1)).payload.serialize = .ok p ∧
      p.get? Item.eventTag = some e.toMap ∧
      e.get? Envelope.parentTag = some (.str "root") ∧
      (e.get? Envelope.dataTag).map Msgpack.toJson = some (.object [
        ("args", .array [.int (.ofInt64 (-7)), .double (.ofInt 3), .object [], .null]),
        ("tool_name", .string "grep")]) := by
  intro data l
  have hdata : data.WellFormed := by
    simp only [data, Json.WellFormed, Json.WellFormedItems, Json.WellFormedMembers,
      Assoc.Ascending]
    decide
  have hnesting : data.nesting ≤ 128 := by decide +kernel
  have hshort : data.short = true := by decide +kernel
  have htexts : ∀ text ∈ texts .conversationItem "tool:pre" data l,
      (utf8 text).length < 2 ^ 32 := by decide +kernel
  obtain ⟨p, e, hread, -, hitem, he⟩ := @deserialize_ofEvent .conversationItem "tool:pre" data l
    (-1) hdata hnesting hshort htexts
  exact ⟨hdata, hnesting, hshort, htexts, p, e, hread, hitem rfl, he.parent, he.data⟩

end Record

/-! ## A text that is too long for a length field -/

/-! ### The name of the event -/

theorem Envelope.exists_toMap (event : String) (data : Json) (l : Lineage) (time : Int64) :
    ∃ others, (Envelope.ofEvent event data l time).toMap =
      .map ((uint Envelope.eventTag, .str event) :: others) ∧ others.length ≤ 7 := by
  have h : (Envelope.ofEvent event data l time).toMap = .map (entriesOf _) :=
    toMap_ofFields (by simp only [List.map_cons, List.map_nil]; decide)
  exact ⟨_, h.trans (congrArg Msgpack.map (List.filterMap_cons_some rfl)),
    List.length_filterMap_le _ _⟩

/-- The envelope of an event whose name has 2 ^ 32 letters is read with an empty name. Its other
entries are read from the letters. -/
theorem Envelope.name_lost {event : String} (data : Json) (l : Lineage) (time : Int64)
    (hevent : utf8 event = List.replicate (2 ^ 32) 0x61) : ∃ p,
      Payload.deserialize (Envelope.ofEvent event data l time).serialize = .ok p ∧
      p.get? Envelope.eventTag = some (.str "") := by
  obtain ⟨others, htoMap, hothers⟩ := Envelope.exists_toMap event data l time
  let letters : List (UInt64 × Msgpack) := List.replicate others.length (97, uint 97)
  have hwithin : ∀ e ∈ letters, (uint e.1).Within 1022 ∧ e.2.Within 1022 := by
    intro e he
    obtain rfl := List.eq_of_mem_replicate he
    exact ⟨within_int _ (by omega), within_int _ (by omega)⟩
  have htext : utf8 event = writeEntries (letters.map fun e => (uint e.1, e.2)) ++
      List.replicate (2 ^ 32 - 2 * others.length) 0x61 := by
    rw [List.map_replicate, Msgpack.writeEntries_replicate, List.replicate_append_replicate,
      Nat.add_sub_of_le (by omega), hevent]
  have hread : Msgpack.ofBytes (Envelope.ofEvent event data l time).serialize = .ok
      (.map (((Envelope.eventTag, Msgpack.str "") :: letters).map fun e => (uint e.1, e.2))) := by
    have hmap : read (1022 + 2) (map ((uint Envelope.eventTag, .str event) :: others)).write = _ :=
      read_map_overlong (within_int _ (by omega)) (List.forall_mem_map.2 hwithin)
        (by rw [List.length_map, List.length_replicate]) (by rw [hevent, List.length_replicate])
        htext (by omega) (by omega)
    rw [Msgpack.ofBytes, Payload.serialize, htoMap]
    exact congrArg (Except.map (·.1)) hmap
  refine ⟨_, Payload.deserialize_of_ofBytes hread, ?_⟩
  have hnone : Assoc.find? Envelope.eventTag letters.reverse = none := by
    rw [List.reverse_replicate]
    refine Assoc.find?_of_all_lt fun e he => ?_
    obtain rfl := List.eq_of_mem_replicate he
    decide
  rw [Payload.get?_ofList, List.reverse_cons, Assoc.find?_append, hnone]
  rfl

/-! ### The JSON text of the data -/

namespace Item

variable {event text : String} {l : Lineage} {time : Int64}

/-- The part of an item that holds such a text is read with an empty one. -/
theorem read_systemPart_overlong {kind : SystemKind} {title content : String} {budget : Nat}
    (htitle : (utf8 title).length < 2 ^ 32) (hcontent : (utf8 content).length = 2 ^ 32)
    (hbudget : 3 ≤ budget) (rest : Bytes) :
    read (budget + 2) ((systemPart kind title content).write ++ rest) =
      .ok (systemPart kind title "", utf8 content ++ rest) := by
  let front : List (Msgpack × Msgpack) :=
    [(uint systemKindTag, .str kind.name), (uint systemTitleTag, .str title)]
  have htag (tag : UInt64) : (uint tag).Within budget := within_int _ (by omega)
  have hfront : ∀ e ∈ front, e.1.Within budget ∧ e.2.Within budget := by
    simp only [front, List.forall_mem_cons, List.not_mem_nil, false_implies, implies_true, and_true]
    exact ⟨⟨htag _, within_str (length_utf8_name_lt kind) hbudget⟩, htag _,
      within_str htitle hbudget⟩
  have hlast : readMany (readEntry (read budget)) 1
      (writeEntries [(uint systemContentTag, .str content)] ++ rest) =
        .ok ([(uint systemContentTag, .str "")], utf8 content ++ rest) := by
    rw [writeEntries, writeEntries, List.append_nil, List.append_assoc]
    exact readMany_cons (readEntry_of_read (read_write _ (htag _).1 (htag _).2 _)
      (read_str_overlong hcontent hbudget rest)) rfl
  rw [systemPart_eq, systemPart_eq, read_map (by simp)]
  change (readMany _ (front.length + 1)
    (writeEntries (front ++ [(uint systemContentTag, .str content)]) ++ rest)).map _ = _
  rw [writeEntries_append, List.append_assoc, readMany_writeEntries_add hfront, hlast]
  rfl

theorem utf8_compact_string (text : String) :
    ∃ quoted, utf8 (Json.string text).compact = 0x22 :: quoted :=
  ⟨_, (utf8_ofList _).trans List.flatMap_cons⟩

/-- Behind it the first quote of the text, the octet 34, is read as the key of the last entry. -/
theorem readMany_parts_overlong {kind : SystemKind} {title : String} {envelope : Msgpack}
    {budget : Nat} (htitle : (utf8 title).length < 2 ^ 32)
    (hcontent : (utf8 (Json.string text).compact).length = 2 ^ 32) (hbudget : 3 ≤ budget) :
    ∃ last : Except ReadError (Msgpack × Bytes),
      readMany (readEntry (read (budget + 2))) 2 (writeEntries
        [(uint systemTag, systemPart kind title (Json.string text).compact),
          (uint eventTag, envelope)]) =
        last.map fun r => ([(uint systemTag, systemPart kind title ""), (uint 34, r.1)], r.2) := by
  obtain ⟨quoted, hquoted⟩ := utf8_compact_string text
  let left := quoted ++ writeEntries [(uint eventTag, envelope)]
  have hsystem := @read_systemPart_overlong kind _ _ _ htitle hcontent hbudget
    (writeEntries [(uint eventTag, envelope)])
  rw [hquoted] at hsystem
  have hfirst := readEntry_of_read (read_write (uint systemTag) rfl
    (show (uint systemTag).cost ≤ budget + 2 by simp only [uint, cost]; omega) _) hsystem
  have hkey : read (budget + 2) (0x22 :: left) = .ok (uint 34, left) := by
    have hmarker : Marker.ofByte 0x22 = .fixInt 34 := rfl
    rw [read_cons (budget + 1), hmarker, readMarked]
    exact congrArg (fun key => Except.ok (key, left)) (ofInt_val (.ofUInt64 34))
  refine ⟨read (budget + 2) left, ?_⟩
  rw [writeEntries]
  cases hlast : read (budget + 2) left with
  | error e =>
    refine readMany_cons_error hfirst (readMany_error ?_ 0)
    rw [readEntry, List.cons_append, hkey]
    change (read (budget + 2) left >>= _) = _
    rw [hlast]
    rfl
  | ok r => exact readMany_cons hfirst (readMany_cons (readEntry_of_read hkey hlast) rfl)

/-- The entries of an item in front of its parts. -/
def front (kind session label : String) (time : Int64) : List (UInt64 × Msgpack) :=
  [(kindTag, .str kind), (statusTag, .str "complete"), (timestampTag, .sint time),
    (idTag, .str (id session label time))]

/-- Where the text with its quotes has 2 ^ 32 octets, the item is read with an empty text and an
entry of a stray key in place of the envelope. -/
theorem ofBytes_overlong (htitle : (utf8 (eventTitle event l)).length < 2 ^ 32)
    (hcontent : (utf8 (Json.string text).compact).length = 2 ^ 32) :
    ∃ last : Except ReadError Msgpack,
      Msgpack.ofBytes (ofEvent event (.string text) l time).serialize = last.map fun value =>
        .map ((front "system" l.sessionId event time ++
          [(systemTag, systemPart (.ofEvent event) (eventTitle event l) ""), (34, value)]).map
            fun e => (uint e.1, e.2)) := by
  let written : List (Msgpack × Msgpack) :=
    (front "system" l.sessionId event time).map fun e => (uint e.1, e.2)
  let parts : List (Msgpack × Msgpack) := [
    (uint systemTag, systemPart (.ofEvent event) (eventTitle event l) (Json.string text).compact),
    (uint eventTag, (Envelope.ofEvent event (.string text) l time).toMap)]
  have htoMap : (ofEvent event (.string text) l time).toMap = .map (written ++ parts) := by
    rw [ofEvent_eq, complete, toMap_ofFields
      (by simp only [List.map_cons, List.map_nil, List.cons_append, List.nil_append]; decide)]
    rfl
  have htag (tag : UInt64) : (uint tag).Within 1022 := within_int _ (by omega)
  have hwritten : ∀ e ∈ written, e.1.Within 1022 ∧ e.2.Within 1022 := by
    simp only [written, front, List.map_cons, List.map_nil, List.forall_mem_cons,
      List.not_mem_nil, false_implies, implies_true, and_true]
    exact ⟨⟨htag _, within_str (by decide) (by omega)⟩,
      ⟨htag _, within_str (by decide) (by omega)⟩, ⟨htag _, within_int _ (by omega)⟩,
      htag _, within_str (length_utf8_id_lt ..) (by omega)⟩
  obtain ⟨last, hlast⟩ := @readMany_parts_overlong text (.ofEvent event) _
    (Envelope.ofEvent event (.string text) l time).toMap 1020 htitle hcontent (by omega)
  have hmany := readMany_writeEntries_add hwritten 2 (writeEntries parts)
  rw [hlast] at hmany
  have hread := @read_map 1022 (written ++ parts) (by simp [written, parts, front]) []
  rw [List.append_nil, List.append_nil, writeEntries_append, List.length_append] at hread
  refine ⟨last.map (·.1), ?_⟩
  rw [Msgpack.ofBytes, Payload.serialize, htoMap]
  change (read (1022 + 2) _).map _ = _
  rw [hread]
  change ((readMany (readEntry (read 1022)) (written.length + 2) _).map _).map _ = _
  rw [hmany]
  cases last <;> rfl

/-- Behind a text of 2 ^ 32 octets with its quotes no envelope is found. -/
theorem envelope_lost {p : Payload} (htitle : (utf8 (eventTitle event l)).length < 2 ^ 32)
    (hcontent : (utf8 (Json.string text).compact).length = 2 ^ 32)
    (hread : Payload.deserialize (ofEvent event (.string text) l time).serialize = .ok p) :
    p.get? Item.eventTag = none := by
  obtain ⟨last, hlast⟩ := @ofBytes_overlong event text l time htitle hcontent
  cases last with
  | error e =>
    rw [Payload.deserialize, hlast] at hread
    cases hread
  | ok value =>
    rw [Payload.deserialize_of_ofBytes hlast] at hread
    obtain rfl := Except.ok.inj hread
    rw [Payload.get?_ofList]
    rfl

end Item

/-- The quotes add two octets to a text of which nothing is escaped. -/
theorem Json.length_compact_replicate (n : Nat) :
    (utf8 (Json.string (String.ofList (List.replicate n 'a'))).compact).length = n + 2 := by
  have hplain : (List.replicate n 'a').flatMap stringChar = List.replicate n 'a' := by
    rw [List.flatMap_replicate]
    exact List.flatten_replicate_singleton
  rw [compact, stringText, String.toList_ofList, hplain, ← List.singleton_append,
    String.ofList_append, String.ofList_append, length_utf8_append, length_utf8_append,
    length_utf8_replicate]
  change 1 + n + 1 = n + 2
  omega

/-- An item of which only the JSON text of the data is too long, and an envelope of which only the
name is: in the first no envelope is found, and in the second another name. -/
theorem overlong_texts_lost :
    let data : Json := .string (String.ofList (List.replicate (2 ^ 32 - 2) 'a'))
    let name := String.ofList (List.replicate (2 ^ 32) 'a')
    let l : Lineage := ⟨"session", none, "session", none⟩
    (data.WellFormed ∧ data.nesting ≤ 128 ∧ data.short = true ∧
      ¬ ∃ p e : Payload, Payload.deserialize
          (Record.ofEvent .conversationItem "tool:pre" data l 0).payload.serialize = .ok p ∧
        p.get? Item.eventTag = some e.toMap) ∧
    ¬ ∃ p, Payload.deserialize (Record.ofEvent .envelope name .null l 0).payload.serialize = .ok p ∧
      p.get? Envelope.eventTag = some (.str name) := by
  intro data name l
  have hlength := length_utf8_replicate (2 ^ 32 - 2)
  have hcontent := Json.length_compact_replicate (2 ^ 32 - 2)
  have hshort : data.short = true := by
    simp only [data, Json.short, decide_eq_true_eq]
    omega
  refine ⟨⟨trivial, Nat.zero_le 128, hshort, ?_⟩, ?_⟩
  · rintro ⟨p, e, hread, hitem⟩
    have hlost := @Item.envelope_lost "tool:pre" _ l 0 p (by decide) (by omega) hread
    rw [hlost] at hitem
    cases hitem
  · rintro ⟨p, hread, hname⟩
    obtain ⟨q, hq, hempty⟩ := Envelope.name_lost .null l 0 (utf8_replicate (2 ^ 32))
    obtain rfl : p = q := Except.ok.inj (hread.symm.trans hq)
    have hsame : "" = name := Msgpack.str.inj (Option.some.inj (hempty.symm.trans hname))
    have hzero : (utf8 "").length = 2 ^ 32 := hsame ▸ length_utf8_replicate (2 ^ 32)
    exact absurd hzero (by decide)

end SessionRecorder

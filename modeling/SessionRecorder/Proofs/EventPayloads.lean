import SessionRecorder.Proofs.Msgpack.Injective
import SessionRecorder.Proofs.Payloads
import SessionRecorder.Record.Item

/-!
What the payload of an event tells apart. Payloads that a request can hold have the same octets
only if they are the same, and the record of an event is the same just for the same name, the
same recorded data and the same time. Main statement: `serialize_ofEvent_iff`.
-/

namespace SessionRecorder

open Msgpack

namespace Payload

theorem toMap_injective {p q : Payload} (h : p.toMap = q.toMap) : p = q := by
  have hentries := congrArg ofEntries? (Msgpack.map.inj h)
  rw [ofEntries?_map_uint, ofEntries?_map_uint] at hentries
  exact Payload.ext (Except.ok.inj hentries)

/-- Whether every string in the payload is text. -/
def Textual (p : Payload) : Prop := p.toMap.textual = true

theorem textual_iff {p : Payload} : p.Textual ↔ ∀ e ∈ p.entries, e.2.textual = true := by
  have hentries (entries : List (UInt64 × Msgpack)) :
      textualEntries (entries.map fun e => (Msgpack.uint e.1, e.2)) = true ↔
        ∀ e ∈ entries, e.2.textual = true := by
    induction entries with
    | nil => simp [textualEntries]
    | cons e rest ih => simp [textualEntries, ih, show (Msgpack.uint e.1).textual = true from rfl]
  exact hentries p.entries

/-- Octets that a request can hold are those of one payload alone. -/
theorem eq_of_serialize {p q : Payload} (hp : p.Textual) (hq : q.Textual)
    (hlength : p.serialize.length < 2 ^ 32) (h : p.serialize = q.serialize) : p = q :=
  toMap_injective (write_injective hp hq hlength h)

theorem textual_ofFields {fields : List (UInt64 × Option Msgpack)}
    (hascending : (fields.map (·.1)).Pairwise fun a b => compare a b = .lt)
    (h : ∀ tag value, (tag, some value) ∈ fields → value.textual = true) :
    (ofFields fields).Textual := by
  rw [textual_iff, entries_ofFields hascending]
  intro e he
  obtain ⟨⟨tag, value⟩, hmem, hvalue⟩ := List.mem_filterMap.1 he
  obtain ⟨v, rfl, rfl⟩ := Option.map_eq_some_iff.1 hvalue
  exact h tag v hmem

/-- What fields write under their ascending tags determines the fields. -/
theorem ofFields_injective {fields others : List (UInt64 × Option Msgpack)}
    (h : ofFields fields = ofFields others) (htags : fields.map (·.1) = others.map (·.1))
    (hascending : (fields.map (·.1)).Pairwise fun a b => compare a b = .lt) :
    fields = others := by
  have hentries : fields.filterMap (fun f => f.2.map (f.1, ·)) =
      others.filterMap (fun f => f.2.map (f.1, ·)) :=
    (entries_ofFields hascending).symm.trans <| (congrArg entries h).trans <|
      entries_ofFields (htags ▸ hascending)
  clear h
  induction fields generalizing others with
  | nil => exact (List.map_eq_nil_iff.1 htags.symm).symm
  | cons field rest ih =>
    obtain ⟨⟨tag, other⟩, rest', rfl⟩ : ∃ o rest', others = o :: rest' :=
      List.exists_cons_of_ne_nil fun h => by rw [h] at htags; cases htags
    obtain ⟨tag', value⟩ := field
    obtain ⟨rfl, htail⟩ : tag' = tag ∧ rest.map (·.1) = rest'.map (·.1) := List.cons.inj htags
    obtain ⟨hbelow, hrest⟩ := List.pairwise_cons.1 hascending
    have hnew {fields : List (UInt64 × Option Msgpack)} {v : Msgpack}
        (hfields : rest.map (·.1) = fields.map (·.1)) :
        (tag', v) ∉ fields.filterMap fun f => f.2.map (f.1, ·) := by
      intro hmem
      obtain ⟨⟨t, w⟩, hfield, hwritten⟩ := List.mem_filterMap.1 hmem
      obtain ⟨u, _, hentry⟩ := Option.map_eq_some_iff.1 hwritten
      have htag : t = tag' := congrArg Prod.fst hentry
      have hself := hbelow t (hfields ▸ List.mem_map_of_mem hfield)
      simp [htag] at hself
    -- The tag is written on both sides or on none, since it does not come again.
    cases value with
    | none =>
      cases other with
      | none => exact congrArg _ (ih htail hrest hentries)
      | some v =>
        have hmem : (tag', v) ∈ ((tag', some v) :: rest').filterMap fun f =>
          f.2.map (f.1, ·) := List.mem_cons_self
        rw [← hentries] at hmem
        exact absurd hmem (@hnew rest v rfl)
    | some v =>
      cases other with
      | none =>
        have hmem : (tag', v) ∈ ((tag', some v) :: rest).filterMap fun f =>
          f.2.map (f.1, ·) := List.mem_cons_self
        rw [hentries] at hmem
        exact absurd hmem (@hnew rest' v htail)
      | some w =>
        obtain ⟨hhead, hwritten⟩ := List.cons.inj hentries
        cases hhead
        exact congrArg _ (ih htail hrest hwritten)

end Payload

/-! ## The records of events -/

theorem Msgpack.sint_injective {m n : Int64} (h : sint m = sint n) : m = n :=
  Int64.toInt_inj.1 (congrArg WordInt.val (Msgpack.int.inj h))

namespace Envelope

variable {size size' : UInt64} {event event' : String} {data data' : Json} {time time' : Int64}

theorem withSize_injective {l : Lineage}
    (h : withSize size event data l time = withSize size' event' data' l time') :
    event = event' ∧ eventData data = eventData data' ∧ time = time' := by
  have hfields := Payload.ofFields_injective h rfl
    (by simp only [List.map_cons, List.map_nil]; decide)
  simp only [List.cons.injEq, Prod.mk.injEq, Option.some.injEq, Msgpack.str.injEq, true_and]
    at hfields
  obtain ⟨hevent, htime, _, hdata, _⟩ := hfields
  have hofJson : Function.Injective Msgpack.ofJson := fun _ _ => Msgpack.ofJson_injective
  exact ⟨hevent, Option.map_injective hofJson hdata, Msgpack.sint_injective htime⟩

/-- The envelope of an event is that of another one just if name, recorded data and time agree. -/
theorem ofEvent_eq_iff {l : Lineage} : ofEvent event data l time = ofEvent event' data' l time' ↔
    event = event' ∧ eventData data = eventData data' ∧ time = time' := by
  refine ⟨withSize_injective, ?_⟩
  rintro ⟨rfl, hdata, rfl⟩
  simp only [ofEvent, withSize, hdata]

theorem textual_withSize (l : Lineage) : (withSize size event data l time).Textual := by
  refine Payload.textual_ofFields (by simp only [List.map_cons, List.map_nil]; decide) ?_
  intro tag value hmem
  simp only [List.mem_cons, Prod.mk.injEq, List.not_mem_nil, or_false, Option.some.injEq] at hmem
  have hstr {o : Option String} (h : some value = o.map .str) : value.textual = true := by
    obtain ⟨s, _, rfl⟩ := Option.map_eq_some_iff.1 h.symm
    rfl
  have hjson {o : Option Json} (h : some value = o.map .ofJson) : value.textual = true := by
    obtain ⟨d, _, rfl⟩ := Option.map_eq_some_iff.1 h.symm
    exact Msgpack.textual_ofJson d
  obtain ⟨_, rfl⟩ | ⟨_, rfl⟩ | ⟨_, h⟩ | ⟨_, rfl⟩ | ⟨_, h⟩ | ⟨_, rfl⟩ | ⟨_, h⟩ | ⟨_, rfl⟩ := hmem
  · rfl
  · rfl
  · exact hstr h
  · rfl
  · exact hstr h
  · rfl
  · exact hjson h
  · rfl

end Envelope

namespace Item

theorem parts_of_complete {kind session label label' : String} {time time' : Int64}
    {parts parts' : List (UInt64 × Option Msgpack)}
    (h : complete kind session label time parts = complete kind session label' time' parts')
    (htags : parts.map (·.1) = parts'.map (·.1))
    (hascending : ([kindTag, statusTag, timestampTag, idTag] ++ parts.map (·.1)).Pairwise
      fun a b => compare a b = .lt) : parts = parts' := by
  have hfields := Payload.ofFields_injective h
    (by simp only [List.map_append, List.map_cons, List.map_nil, htags])
    (by simpa only [List.map_append, List.map_cons, List.map_nil] using hascending)
  exact (List.append_inj hfields (by simp only [List.length_cons, List.length_nil])).2

/-- The same of the item that holds the envelope. -/
theorem ofEvent_eq_iff {event event' : String} {data data' : Json} {time time' : Int64}
    {l : Lineage} : ofEvent event data l time = ofEvent event' data' l time' ↔
      event = event' ∧ Envelope.eventData data = Envelope.eventData data' ∧ time = time' := by
  constructor
  · intro h
    have hparts := parts_of_complete h (by simp only [List.map_cons, List.map_nil])
      (by simp only [List.map_cons, List.map_nil]; decide)
    simp only [List.cons.injEq, Prod.mk.injEq, Option.some.injEq, true_and] at hparts
    exact Envelope.ofEvent_eq_iff.1 (Payload.toMap_injective hparts.2.1)
  · rintro ⟨rfl, hdata, rfl⟩
    have henvelope : Envelope.ofEvent event data l time = Envelope.ofEvent event data' l time :=
      Envelope.ofEvent_eq_iff.2 ⟨rfl, hdata, rfl⟩
    simp only [ofEvent, hdata, henvelope]

theorem textual_ofEvent (event : String) (data : Json) (l : Lineage) (time : Int64) :
    (ofEvent event data l time).Textual := by
  have hsystem (kind : SystemKind) (title content : String) :
      (systemPart kind title content).textual = true := rfl
  have henvelope : (Envelope.ofEvent event data l time).toMap.textual = true :=
    Envelope.textual_withSize l
  refine Payload.textual_ofFields
    (by simp only [List.map_cons, List.map_nil, List.cons_append, List.nil_append]; decide) ?_
  intro tag value hmem
  simp only [List.cons_append, List.nil_append, List.mem_cons, Prod.mk.injEq, List.not_mem_nil,
    or_false, Option.some.injEq] at hmem
  obtain ⟨_, rfl⟩ | ⟨_, rfl⟩ | ⟨_, rfl⟩ | ⟨_, rfl⟩ | ⟨_, rfl⟩ | ⟨_, rfl⟩ := hmem
  · rfl
  · rfl
  · rfl
  · rfl
  · exact hsystem _ _ _
  · exact henvelope

end Item

namespace Record

variable {shape : RecordShape} {event event' : String} {data data' : Json} {time time' : Int64}
  {l : Lineage}

theorem payload_ofEvent_eq_iff :
    (ofEvent shape event data l time).payload = (ofEvent shape event' data' l time').payload ↔
      event = event' ∧ Envelope.eventData data = Envelope.eventData data' ∧ time = time' := by
  cases shape with
  | envelope => exact Envelope.ofEvent_eq_iff
  | conversationItem => exact Item.ofEvent_eq_iff

theorem textual_ofEvent : (ofEvent shape event data l time).payload.Textual := by
  cases shape with
  | envelope => exact Envelope.textual_withSize l
  | conversationItem => exact Item.textual_ofEvent event data l time

/-- Where a request can hold them, the octets recorded for two events are the same just if the
events have the same name, the same recorded data and the same time. -/
theorem serialize_ofEvent_iff
    (hlength : (ofEvent shape event data l time).payload.serialize.length < 2 ^ 32) :
    (ofEvent shape event data l time).payload.serialize =
      (ofEvent shape event' data' l time').payload.serialize ↔
      event = event' ∧ Envelope.eventData data = Envelope.eventData data' ∧ time = time' := by
  rw [← @payload_ofEvent_eq_iff shape event event' data data' time time' l]
  refine ⟨Payload.eq_of_serialize textual_ofEvent textual_ofEvent hlength, fun h => ?_⟩
  rw [h]

end Record

end SessionRecorder

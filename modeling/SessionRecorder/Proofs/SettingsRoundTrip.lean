import SessionRecorder.Proofs.Overrides

/-!
Settings in their JSON form, loaded as a configuration. Its keys are in camel case, and no upper
case holds an underscore, so normalizing leaves it as it is, and to normalize a configuration twice
changes nothing (`normalizeKeys_idem`). It has a value for every key of the defaults, so it takes
their place (`merge_toJson`), and each field reads its own value back (`ofJson_written`). Main
statement: `load_round_trip`.
-/

namespace SessionRecorder

namespace Text

/-! ## Upper case has no underscore -/

theorem upperRuns_skip_underscore : ∀ run ∈ upperRuns,
    (run.last : Int) + run.offset < 95 ∨ 95 < (run.first : Int) + run.offset := by
  decide +kernel

theorem upperExpansions_skip_underscore :
    ∀ e ∈ upperExpansions, '_' ∉ e.2.map Char.ofNat := by
  decide +kernel

theorem eq_toNat_of_ofNat_eq {n : Nat} {c : Char} (h : Char.ofNat n = c) (hc : c ≠ '\x00') :
    n = c.toNat := by
  by_cases hn : n.isValidChar
  · rw [← h, Char.ofNat, dif_pos hn]
    rfl
  · rw [Char.ofNat, dif_neg hn] at h
    exact absurd h.symm hc

theorem CaseRun.image?_ne_underscore {run : CaseRun} (h : run ∈ upperRuns) (c : Char) :
    run.image? c ≠ some '_' := by
  intro himage
  unfold CaseRun.image? at himage
  split at himage
  · rename_i hc
    have hcode := eq_toNat_of_ofNat_eq (Option.some.inj himage) (by decide)
    have hunderscore : '_'.toNat = 95 := rfl
    have hskip := upperRuns_skip_underscore run h
    omega
  · cases himage

/-- Only the underscore has one in its upper case. -/
theorem underscore_not_mem_upperChar {c : Char} (h : c ≠ '_') : '_' ∉ upperChar c := by
  unfold upperChar
  cases hexpansion : upperExpansions.lookup c.toNat with
  | some image =>
    obtain ⟨before, behind, hentries, _⟩ := List.lookup_eq_some_iff.1 hexpansion
    refine upperExpansions_skip_underscore (c.toNat, image) ?_
    rw [hentries]
    exact List.mem_append_right _ (List.mem_cons_self ..)
  | none =>
    simp only [List.mem_singleton]
    cases himage : upperRuns.findSome? (·.image? c) with
    | none => exact fun heq => h heq.symm
    | some image =>
      obtain ⟨run, hrun, hmoved⟩ := List.exists_of_findSome?_eq_some himage
      rintro rfl
      exact CaseRun.image?_ne_underscore hrun c hmoved

end Text

namespace Settings

/-! ## Keys in camel case -/

theorem underscore_not_mem_camelFrom (started due : Bool) (cs : List Char) :
    '_' ∉ camelFrom started due cs := by
  induction cs generalizing started due with
  | nil => simp [camelFrom]
  | cons c rest ih =>
    unfold camelFrom
    split
    · exact ih _ _
    · rename_i hc
      split
      · rw [List.mem_append]
        exact fun h => h.elim (Text.underscore_not_mem_upperChar hc) (ih _ _)
      · rw [List.mem_cons]
        exact fun h => h.elim (fun heq => hc heq.symm) (ih _ _)

theorem camelFrom_of_not_mem {cs : List Char} (h : '_' ∉ cs) (started : Bool) :
    camelFrom started false cs = cs := by
  induction cs generalizing started with
  | nil => rfl
  | cons c rest ih =>
    simp only [List.mem_cons, not_or] at h
    rw [camelFrom, if_neg fun heq => h.1 heq.symm, if_neg (by decide), ih h.2]

/-- A key in camel case. -/
def Camel (key : String) : Prop := '_' ∉ key.toList

instance (key : String) : Decidable (Camel key) := inferInstanceAs (Decidable (_ ∉ _))

theorem camel_camelCase (key : String) : Camel (camelCase key) := by
  unfold Camel camelCase
  rw [String.toList_ofList]
  exact underscore_not_mem_camelFrom _ _ _

theorem Camel.camelCase_eq {key : String} (h : Camel key) : camelCase key = key := by
  rw [camelCase, camelFrom_of_not_mem h, String.ofList_toList]

theorem Camel.startsWith_underscore {key : String} (h : Camel key) :
    Text.startsWith key "_" = false := by
  rw [Bool.eq_false_iff]
  intro hstarts
  have hfront : ['_'] <+: key.toList := List.isPrefixOf_iff_prefix.1 hstarts
  exact h (hfront.subset (List.mem_singleton_self _))

theorem camel_of_mem_normalizeMembers {members : List (String × Json)} {e : String × Json}
    (h : e ∈ normalizeMembers members) : Camel e.1 := by
  obtain ⟨original, _, rfl⟩ := List.mem_map.1 (Assoc.mem_ofList h)
  exact camel_camelCase _

/-- Members whose keys are in camel case are normal. -/
theorem normalizeMembers_of_camel {members : List (String × Json)}
    (hascending : Assoc.Ascending members) (hkeys : ∀ e ∈ members, Camel e.1) :
    normalizeMembers members = members := by
  have hpublic : members.filter (fun e => !Text.startsWith e.1 "_") = members :=
    List.filter_eq_self.2 fun e he => by rw [(hkeys e he).startsWith_underscore, Bool.not_false]
  have hcamel : members.map (fun e => (camelCase e.1, e.2)) = members := by
    refine (List.map_congr_left fun e he => ?_).trans (List.map_id members)
    rw [(hkeys e he).camelCase_eq]
    rfl
  calc normalizeMembers members
      = Assoc.ofList ((members.filter fun e => !Text.startsWith e.1 "_").map fun e =>
          (camelCase e.1, e.2)) := rfl
    _ = Assoc.ofList members := by rw [hpublic, hcamel]
    _ = members := Assoc.ofList_of_ascending hascending

theorem normalizeKeys_idem (config : Json) :
    normalizeKeys (normalizeKeys config) = normalizeKeys config := by
  cases config with
  | object members =>
    exact congrArg Json.object (normalizeMembers_of_camel (Assoc.ascending_ofList _) fun _ =>
      camel_of_mem_normalizeMembers)
  | _ => rfl

end Settings

/-! ## Values that replace what is below them -/

namespace Json

/-- A value that is laid over another as a whole. -/
def isWhole : Json → Bool
  | .null | .object _ => false
  | _ => true

theorem merge_of_isWhole {source : Json} (h : source.isWhole = true) (target : Json) :
    merge target source = source := by
  cases source with
  | null | object => cases h
  | _ => rfl

theorem mergeMembers_of_isWhole {source : List (String × Json)}
    (h : ∀ e ∈ source, e.2.isWhole = true) (below : List (String × Json)) :
    mergeMembers below source =
      source.foldl (fun m (key, value) => Assoc.insert key value m) below := by
  induction source generalizing below with
  | nil => rfl
  | cons e rest ih =>
    obtain ⟨key, value⟩ := e
    obtain ⟨hvalue, hrest⟩ := List.forall_mem_cons.1 h
    have hnull : value ≠ .null := fun heq => by
      rw [heq] at hvalue
      cases hvalue
    rw [mergeMembers, List.foldl_cons, ih hrest]
    · cases Assoc.find? key below with
      | none => rfl
      | some old => simp only [merge_of_isWhole hvalue]
    · exact hnull

/-! ## Reading what was written -/

theorem readInt_of_bounds {low high : Int} {n : WordInt} (h : low ≤ n.val ∧ n.val ≤ high)
    (type : String) : readInt low high type (.int n) = .ok n.val := by
  rw [readInt, if_pos h]

theorem readInt_port (n : UInt16) :
    readInt 0 65535 "u16" (.int (.ofUInt64 n.toUInt64)) = .ok n.toNat := by
  have hn := n.toNat_lt
  exact readInt_of_bounds (by simp; omega) _

theorem readInt_size (n : UInt64) :
    readInt 0 18446744073709551615 "usize" (.int (.ofUInt64 n)) = .ok n.toNat := by
  have hn := n.toNat_lt
  exact readInt_of_bounds (by simp; omega) _

theorem readInt_priority (n : Int32) :
    readInt (-2147483648) 2147483647 "i32" (.int (.ofInt64 n.toInt64)) = .ok n.toInt := by
  have hval : (WordInt.ofInt64 n.toInt64).val = n.toInt := by simp [WordInt.ofInt64]
  have hlower := n.le_toInt
  have hupper := n.toInt_lt
  rw [readInt_of_bounds (by rw [hval]; omega), hval]

theorem readStrings_map (xs : List String) : readStrings (.array (xs.map .string)) = .ok xs := by
  change readEach readString (xs.map .string) = .ok xs
  induction xs with
  | nil => rfl
  | cons x rest ih => simp [readEach, readString, ih, bind, Except.bind]

end Json

theorem DedupMode.readVariant_name (mode : DedupMode) :
    Json.readVariant DedupMode.variants (.string mode.name) = .ok mode := by
  cases mode <;> rfl

theorem RecordShape.readVariant_name (shape : RecordShape) :
    Json.readVariant RecordShape.variants (.string shape.name) = .ok shape := by
  cases shape <;> rfl

namespace Settings

/-- The members of the JSON form. -/
def written (s : Settings) : List (String × Json) :=
  [("additionalEvents", .array (s.additionalEvents.map .string)),
   ("bufferSize", .int (.ofUInt64 s.bufferSize))] ++
  (s.clientTag.map fun tag => ("clientTag", Json.string tag)).toList ++
  [("connectTimeoutSeconds", .double s.connectTimeout),
   ("cxdbHost", .string s.host),
   ("cxdbHttpPort", .int (.ofUInt64 s.httpPort.toUInt64)),
   ("cxdbPort", .int (.ofUInt64 s.port.toUInt64)),
   ("dedupMode", .string s.dedupMode.name),
   ("eventRecordShape", .string s.recordShape.name),
   ("excludeEvents", .array (s.excludeEvents.map .string)),
   ("flushTimeoutSeconds", .double s.flushTimeout),
   ("priority", .int (.ofInt64 s.priority.toInt64)),
   ("publishRegistry", .bool s.publishRegistry)]

theorem toJson_eq (s : Settings) : s.toJson = .object s.written := rfl

/-- The keys of the JSON form, with and without a client tag. -/
def writtenKeys (tagged : Bool) : List String :=
  ["additionalEvents", "bufferSize"] ++ (if tagged then ["clientTag"] else []) ++
    ["connectTimeoutSeconds", "cxdbHost", "cxdbHttpPort", "cxdbPort", "dedupMode",
      "eventRecordShape", "excludeEvents", "flushTimeoutSeconds", "priority", "publishRegistry"]

theorem keys_written (s : Settings) :
    s.written.map (·.1) = writtenKeys s.clientTag.isSome := by
  unfold written
  cases s.clientTag <;> rfl

theorem ascending_written (s : Settings) : Assoc.Ascending s.written := by
  have hkeys (tagged : Bool) : (writtenKeys tagged).Pairwise (compare · · = .lt) := by
    cases tagged <;> decide +kernel
  have hwritten := hkeys s.clientTag.isSome
  rw [← keys_written] at hwritten
  exact List.pairwise_map.1 hwritten

theorem camel_of_mem_written {s : Settings} {e : String × Json} (h : e ∈ s.written) :
    Camel e.1 := by
  have hkeys (tagged : Bool) : ∀ key ∈ writtenKeys tagged, Camel key := by
    cases tagged <;> decide +kernel
  refine hkeys s.clientTag.isSome e.1 ?_
  rw [← keys_written]
  exact List.mem_map_of_mem h

theorem isWhole_of_mem_written {s : Settings} {e : String × Json} (h : e ∈ s.written) :
    e.2.isWhole = true := by
  have hall : s.written.all (·.2.isWhole) = true := by
    unfold written
    cases s.clientTag <;> rfl
  exact List.all_eq_true.1 hall e h

/-- Settings laid over the defaults are all that counts. -/
theorem merge_toJson (s : Settings) :
    Json.merge ({} : Settings).toJson s.toJson = s.toJson := by
  have hsubset (tagged : Bool) : writtenKeys false ⊆ writtenKeys tagged := by
    cases tagged <;> decide +kernel
  have hkeys : ({} : Settings).written.map (·.1) ⊆ s.written.map (·.1) := by
    rw [keys_written, keys_written]
    exact hsubset _
  refine congrArg Json.object ?_
  change Json.mergeMembers ({} : Settings).written s.written = s.written
  rw [Json.mergeMembers_of_isWhole fun e => isWhole_of_mem_written]
  exact Assoc.foldl_insert_of_subset (ascending_written s) (ascending_written {}) hkeys

theorem ofJson_written (s : Settings) : ofJson (.object s.written) = .ok s := by
  obtain ⟨host, port, httpPort, connectTimeout, flushTimeout, bufferSize, priority, excludeEvents,
    additionalEvents, dedupMode, recordShape, publishRegistry, clientTag⟩ := s
  unfold ofJson written
  cases clientTag <;>
    simp [Json.readRecord, Json.readMembers, fields, Json.readString, Json.readDouble,
      Json.readBool, Json.readOption, Json.readInt_port, Json.readInt_size, Json.readInt_priority,
      Json.readStrings_map, DedupMode.readVariant_name, RecordShape.readVariant_name, bind,
      Except.bind, Except.map]

/-- Settings give themselves. -/
theorem ofConfig_toJson (s : Settings) : ofConfig s.toJson = .ok s := by
  have hnormal : normalizeKeys s.toJson = s.toJson :=
    congrArg Json.object (normalizeMembers_of_camel (ascending_written s) fun _ =>
      camel_of_mem_written)
  change (ofJson (Json.merge ({} : Settings).toJson (normalizeKeys s.toJson))).mapError _ = _
  rw [hnormal, merge_toJson, toJson_eq, ofJson_written]
  rfl

/-! ## Loading -/

/-- Settings that pass the checks, written as JSON and loaded without an environment, are as they
were, field by field; and a configuration loads as it does with its keys normalized before. -/
theorem load_round_trip :
    (∀ s : Settings, validate s = .ok () →
      load s.toJson (fun _ => none) = (.ok s, [resolved s])) ∧
    ∀ (members : List (String × Json)) (env : Environment),
      load (normalizeKeys (.object members)) env = load (.object members) env := by
  refine ⟨fun s hvalid => ?_, fun members env => ?_⟩
  · have husable : (overridden (fun _ => none) s).Usable := validate_ok_iff.1 hvalid
    exact load_of_usable (ofConfig_toJson s) husable
  · have hnormal : normalizeKeys (.object (normalizeMembers members)) =
        normalizeKeys (.object members) := normalizeKeys_idem (.object members)
    change load (.object (normalizeMembers members)) env = _
    simp only [load, ofConfig, hnormal]

/-- Settings that differ from the defaults in every field. -/
theorem changed_settings_round_trip :
    let s : Settings := {
      host := "h", port := 7000, httpPort := 65535, connectTimeout := .ofInt 1
      flushTimeout := .ofInt 30, bufferSize := 1, priority := -5, excludeEvents := ["tool:*", "x"]
      additionalEvents := ["my_event"], dedupMode := .highWaterMark
      recordShape := .conversationItem, publishRegistry := false, clientTag := some "" }
    validate s = .ok () ∧ load s.toJson (fun _ => none) = (.ok s, [resolved s]) ∧
      load (.object [("cxdb_port", .int (.ofUInt64 7000))]) (fun _ => none) =
        load (.object [("cxdbPort", .int (.ofUInt64 7000))]) fun _ => none := by
  intro s
  have htimeouts : GoodTimeout s.connectTimeout ∧ GoodTimeout s.flushTimeout := by
    unfold GoodTimeout
    decide +kernel
  have hvalid : validate s = .ok () :=
    validate_ok_iff.2 ⟨by decide, by decide, by decide, htimeouts.1, htimeouts.2⟩
  exact ⟨hvalid, load_round_trip.1 s hvalid, (load_round_trip.2 [("cxdb_port", _)] _).symm⟩

end Settings

end SessionRecorder

import SessionRecorder.Settings.Load

/-!
Settings under an environment. A variable that holds a value puts it in the one field that is its
own, whatever the other variables hold; a variable that holds none is reported and changes nothing.
What a variable may hold passes the checks that come after, so settings that are usable stay
usable. Main statement: `load_overridden`.
-/

namespace SessionRecorder

/-- The value that a variable holds, if it is set, not empty and a value. -/
def Environment.read {α : Type} (parse : String → Option α) (env : Environment) (name : String) :
    Option α :=
  (env.nonEmpty name).bind parse

/-- What holds of a field and of each value of its variable holds under any environment. -/
theorem Environment.getD_read {α : Type} {parse : String → Option α} {P : α → Prop} {x : α}
    (hparse : ∀ text y, parse text = some y → P y) (hx : P x) (env : Environment)
    (name : String) : P ((env.read parse name).getD x) := by
  cases h : env.read parse name with
  | none => exact hx
  | some y =>
    obtain ⟨text, _, htext⟩ := Option.bind_eq_some_iff.1 h
    exact hparse text y htext

namespace Settings

open Decimal

/-! ## What a variable may hold -/

def parsePort (text : String) : Option UInt16 := (parseRange 65535 1 65535 text).map .ofNat

def parseBufferSize (text : String) : Option UInt64 :=
  (parseRange 18446744073709551615 1 10000000 text).map .ofNat

def parsePriority (text : String) : Option Int32 :=
  (boundedInt? (-2147483648) 2147483647 text).map .ofInt

def parseDedupMode (text : String) : Option DedupMode := DedupMode.variants.lookup text

def parseRecordShape (text : String) : Option RecordShape := RecordShape.variants.lookup text

/-- Settings in which every variable that holds a value stands in its field. -/
def overridden (env : Environment) (s : Settings) : Settings :=
  { s with
    host := (env.read some "CXDB_HOST").getD s.host
    port := (env.read parsePort "CXDB_PORT").getD s.port
    httpPort := (env.read parsePort "CXDB_HTTP_PORT").getD s.httpPort
    connectTimeout := (env.read parsePositive "CXDB_CONNECT_TIMEOUT").getD s.connectTimeout
    flushTimeout := (env.read parsePositive "CXDB_FLUSH_TIMEOUT").getD s.flushTimeout
    bufferSize := (env.read parseBufferSize "CXDB_BUFFER_SIZE").getD s.bufferSize
    priority := (env.read parsePriority "CXDB_PRIORITY").getD s.priority
    dedupMode := (env.read parseDedupMode "CXDB_DEDUP_MODE").getD s.dedupMode
    recordShape := (env.read parseRecordShape "CXDB_EVENT_RECORD_SHAPE").getD s.recordShape
    publishRegistry := (env.read parseBool "CXDB_PUBLISH_REGISTRY").getD s.publishRegistry }

/-- The variables, and which texts are values of theirs. -/
def knownVariables : List (String × (String → Bool)) := [
  ("CXDB_HOST", fun _ => true),
  ("CXDB_PORT", fun text => (parsePort text).isSome),
  ("CXDB_HTTP_PORT", fun text => (parsePort text).isSome),
  ("CXDB_CONNECT_TIMEOUT", fun text => (parsePositive text).isSome),
  ("CXDB_FLUSH_TIMEOUT", fun text => (parsePositive text).isSome),
  ("CXDB_BUFFER_SIZE", fun text => (parseBufferSize text).isSome),
  ("CXDB_PRIORITY", fun text => (parsePriority text).isSome),
  ("CXDB_DEDUP_MODE", fun text => (parseDedupMode text).isSome),
  ("CXDB_EVENT_RECORD_SHAPE", fun text => (parseRecordShape text).isSome),
  ("CXDB_PUBLISH_REGISTRY", fun text => (parseBool text).isSome)]

/-- The text of a variable if it is set and not empty but holds no value. -/
def rejected (accepts : String → Bool) (env : Environment) (name : String) : Option String :=
  (env.nonEmpty name).filter (!accepts ·)

/-- The variables that are set and not empty but hold no value, with their texts. -/
def unparsed (env : Environment) : List (String × String) :=
  knownVariables.flatMap fun (name, accepts) => (rejected accepts env name).toList.map (name, ·)

/-! ## One variable after the other -/

/-- A variable whose values are put into the settings. -/
def Override.reading {α : Type} (name : String) (parse : String → Option α)
    (put : α → Settings → Settings) : Override :=
  ⟨name, fun text s => (parse text).map (put · s)⟩

theorem overrides_eq : overrides = [
    .reading "CXDB_HOST" some fun x s => { s with host := x },
    .reading "CXDB_PORT" parsePort fun x s => { s with port := x },
    .reading "CXDB_HTTP_PORT" parsePort fun x s => { s with httpPort := x },
    .reading "CXDB_CONNECT_TIMEOUT" parsePositive fun x s => { s with connectTimeout := x },
    .reading "CXDB_FLUSH_TIMEOUT" parsePositive fun x s => { s with flushTimeout := x },
    .reading "CXDB_BUFFER_SIZE" parseBufferSize fun x s => { s with bufferSize := x },
    .reading "CXDB_PRIORITY" parsePriority fun x s => { s with priority := x },
    .reading "CXDB_DEDUP_MODE" parseDedupMode fun x s => { s with dedupMode := x },
    .reading "CXDB_EVENT_RECORD_SHAPE" parseRecordShape fun x s => { s with recordShape := x },
    .reading "CXDB_PUBLISH_REGISTRY" parseBool fun x s => { s with publishRegistry := x }] := by
  simp only [overrides, Override.reading, parsePort, parseBufferSize, parsePriority,
    parseDedupMode, parseRecordShape, Option.map_map, Function.comp_def, Option.map_some]

/-- The reports about one variable. -/
def reports (accepts : String → Bool) (env : Environment) (name : String) : Log.Journal :=
  (rejected accepts env name).toList.map (ignored name)

/-- A variable that holds a value puts it in place of the old one, and any other leaves that. -/
theorem apply_reading {α : Type} {put : α → Settings → Settings} (get : Settings → α)
    (hput : ∀ s, put (get s) s = s) (parse : String → Option α) (env : Environment)
    (name : String) (s : Settings) :
    (Override.reading name parse put).apply env s =
      (put ((env.read parse name).getD (get s)) s,
        reports (fun text => (parse text).isSome) env name) := by
  unfold Override.apply Environment.read reports rejected Override.reading
  cases env.nonEmpty name with
  | none => simp [hput]
  | some text => cases h : parse text <;> simp [h, hput, Option.filter]

theorem applyAll_reading {α : Type} {put : α → Settings → Settings} (get : Settings → α)
    (hput : ∀ s, put (get s) s = s) (parse : String → Option α) (env : Environment)
    (name : String) (rest : List Override) (s : Settings) :
    applyAll env (.reading name parse put :: rest) s =
      ((applyAll env rest (put ((env.read parse name).getD (get s)) s)).1,
        reports (fun text => (parse text).isSome) env name ++
          (applyAll env rest (put ((env.read parse name).getD (get s)) s)).2) := by
  rw [applyAll, apply_reading get hput]

/-- No two variables share a field, so each finds in its own what the configuration left there. -/
theorem applyEnvironment_eq (env : Environment) (s : Settings) :
    applyEnvironment env s =
      (overridden env s, (unparsed env).map fun (name, text) => ignored name text) := by
  rw [applyEnvironment, overrides_eq, applyAll_reading Settings.host fun _ => rfl,
    applyAll_reading Settings.port fun _ => rfl, applyAll_reading Settings.httpPort fun _ => rfl,
    applyAll_reading Settings.connectTimeout fun _ => rfl,
    applyAll_reading Settings.flushTimeout fun _ => rfl,
    applyAll_reading Settings.bufferSize fun _ => rfl,
    applyAll_reading Settings.priority fun _ => rfl,
    applyAll_reading Settings.dedupMode fun _ => rfl,
    applyAll_reading Settings.recordShape fun _ => rfl,
    applyAll_reading Settings.publishRegistry fun _ => rfl]
  refine Prod.ext rfl ?_
  simp only [applyAll, unparsed, knownVariables, reports, List.flatMap_cons, List.flatMap_nil,
    List.map_append, List.map_map, List.map_nil, Function.comp_def, Option.isSome_some]

/-! ## Values pass the checks -/

theorem parseRange_bounds {top min max n : Nat} {text : String}
    (h : parseRange top min max text = some n) : min ≤ n ∧ n ≤ max := by
  simpa using (Option.filter_eq_some_iff.1 h).2

theorem parsePort_ne_zero (text : String) (n : UInt16) (h : parsePort text = some n) : n ≠ 0 := by
  obtain ⟨k, hk, rfl⟩ := Option.map_eq_some_iff.1 h
  have hbounds := parseRange_bounds hk
  intro hzero
  have htoNat : k % 65536 = 0 := by simpa using congrArg UInt16.toNat hzero
  omega

theorem parseBufferSize_ne_zero (text : String) (n : UInt64) (h : parseBufferSize text = some n) :
    n ≠ 0 := by
  obtain ⟨k, hk, rfl⟩ := Option.map_eq_some_iff.1 h
  have hbounds := parseRange_bounds hk
  intro hzero
  have htoNat : k % 18446744073709551616 = 0 := by simpa using congrArg UInt64.toNat hzero
  omega

/-- A timeout that is accepted. -/
def GoodTimeout (x : Double) : Prop := (x.isFinite && x.isPositive) = true

theorem parsePositive_good (text : String) (x : Double) (h : parsePositive text = some x) :
    GoodTimeout x :=
  (Option.filter_eq_some_iff.1 h).2

/-- Settings that pass the checks. -/
structure Usable (s : Settings) : Prop where
  port : s.port ≠ 0
  httpPort : s.httpPort ≠ 0
  bufferSize : s.bufferSize ≠ 0
  connectTimeout : GoodTimeout s.connectTimeout
  flushTimeout : GoodTimeout s.flushTimeout

theorem checkTimeout_ok_iff {name : String} {value : Double} :
    checkTimeout name value = .ok () ↔ GoodTimeout value := by
  unfold checkTimeout GoodTimeout
  split <;> simp_all

/-- A check in front of others passes, and so do the others. -/
theorem guard_ok_iff {ε : Type} {P : Prop} [Decidable P] {e : ε} {next : PUnit → Except ε Unit} :
    (if P then Except.error e >>= next else next ()) = .ok () ↔ ¬P ∧ next () = .ok () := by
  split <;> simp_all [bind, Except.bind]

theorem validate_ok_iff {s : Settings} : validate s = .ok () ↔ s.Usable := by
  have htimeouts : (checkTimeout "connectTimeoutSeconds" s.connectTimeout >>= fun _ =>
      checkTimeout "flushTimeoutSeconds" s.flushTimeout) = .ok () ↔
      GoodTimeout s.connectTimeout ∧ GoodTimeout s.flushTimeout := by
    rw [← @checkTimeout_ok_iff "connectTimeoutSeconds",
      ← @checkTimeout_ok_iff "flushTimeoutSeconds"]
    cases checkTimeout "connectTimeoutSeconds" s.connectTimeout <;> simp [bind, Except.bind]
  unfold validate
  rw [guard_ok_iff, guard_ok_iff, guard_ok_iff, htimeouts]
  constructor
  · rintro ⟨hport, hhttpPort, hbufferSize, hconnect, hflush⟩
    exact ⟨hport, hhttpPort, hbufferSize, hconnect, hflush⟩
  · intro h
    exact ⟨h.port, h.httpPort, h.bufferSize, h.connectTimeout, h.flushTimeout⟩

theorem Usable.overridden {s : Settings} (h : s.Usable) (env : Environment) :
    (overridden env s).Usable where
  port := Environment.getD_read parsePort_ne_zero h.port env _
  httpPort := Environment.getD_read parsePort_ne_zero h.httpPort env _
  bufferSize := Environment.getD_read parseBufferSize_ne_zero h.bufferSize env _
  connectTimeout := Environment.getD_read parsePositive_good h.connectTimeout env _
  flushTimeout := Environment.getD_read parsePositive_good h.flushTimeout env _

/-! ## Loading -/

/-- A load that gives settings gives those of the configuration under the environment, and these
passed the checks. -/
theorem load_ok {config : Json} {env : Environment} {s : Settings}
    (h : (load config env).1 = .ok s) :
    ∃ own, ofConfig config = .ok own ∧ s = overridden env own ∧ s.Usable := by
  unfold load at h
  cases hown : ofConfig config with
  | error e => simp [hown] at h
  | ok own =>
    simp only [hown, applyEnvironment_eq] at h
    cases hvalid : validate (overridden env own) with
    | error e => simp [hvalid] at h
    | ok _ =>
      simp only [hvalid, Except.ok.injEq] at h
      subst h
      exact ⟨own, rfl, rfl, validate_ok_iff.1 hvalid⟩

theorem load_of_usable {config : Json} {env : Environment} {own : Settings}
    (hown : ofConfig config = .ok own) (husable : (overridden env own).Usable) :
    load config env = (.ok (overridden env own),
      ((unparsed env).map fun (name, text) => ignored name text) ++
        [resolved (overridden env own)]) := by
  simp only [load, hown, applyEnvironment_eq, validate_ok_iff.2 husable]

/-- Where no variable is set, every field is left as it is. -/
theorem overridden_unset (s : Settings) : overridden (fun _ => none) s = s := rfl

/-- Each report about a variable is such a warning, and the closing report is none. -/
theorem matching_ignored (texts : List (String × String)) (s : Settings) :
    (Log.Journal.matching .warn "invalid env var"
      ((texts.map fun (name, text) => ignored name text) ++ [resolved s])).length =
      texts.length := by
  have hcounted : Text.contains "invalid env var, ignoring" "invalid env var" = true := by
    decide +kernel
  simp [Log.Journal.matching, ignored, resolved, Log.Event.warn, Log.Event.debug, hcounted,
    List.filter_map, Function.comp_def]

/-- Settings that load without an environment load under every one: each variable that holds a
value stands in its field, every other field is as it was, and there is one warning for each
variable that is set and not empty but holds no value. -/
theorem load_overridden {config : Json} {s : Settings}
    (h : (load config fun _ => none).1 = .ok s) (env : Environment) :
    load config env = (.ok (overridden env s),
      ((unparsed env).map fun (name, text) => ignored name text) ++
        [resolved (overridden env s)]) ∧
    ((load config env).2.matching .warn "invalid env var").length = (unparsed env).length := by
  obtain ⟨own, hown, rfl, husable⟩ := load_ok h
  rw [overridden_unset] at husable ⊢
  have hload := load_of_usable hown (husable.overridden env)
  exact ⟨hload, by rw [hload, matching_ignored]⟩

/-- A port that is none and a mode that is unknown are reported, and an empty host is not. -/
theorem two_invalid_variables :
    let config : Json := .object [("cxdbHost", .string "h"), ("cxdbPort", .int (.ofUInt64 7000))]
    let env : Environment := fun name => List.lookup name [("CXDB_PORT", "0"),
      ("CXDB_DEDUP_MODE", "bogus"), ("CXDB_HTTP_PORT", "8080"), ("CXDB_HOST", ""),
      ("CXDB_PRIORITY", "-10")]
    let s : Settings := { host := "h", port := 7000 }
    (load config fun _ => none).1 = .ok s ∧
    load config env = (.ok { s with httpPort := 8080, priority := -10 }, [
      ignored "CXDB_PORT" "0", ignored "CXDB_DEDUP_MODE" "bogus",
      resolved { s with httpPort := 8080, priority := -10 }]) := by
  intro config env s
  have hloads : (load config fun _ => none).1 = .ok s := by
    have hsome : (load config fun _ => none).1.toOption = some s := by decide +kernel
    generalize (load config fun _ => none).1 = result at hsome
    cases result with
    | error e => cases hsome
    | ok own => exact congrArg Except.ok (Option.some.inj hsome)
  have hoverridden : overridden env s = { s with httpPort := 8080, priority := -10 } := by
    decide +kernel
  have hunparsed : unparsed env = [("CXDB_PORT", "0"), ("CXDB_DEDUP_MODE", "bogus")] := by
    decide +kernel
  have hload := (load_overridden hloads env).1
  rw [hoverridden, hunparsed] at hload
  exact ⟨hloads, hload⟩

end Settings

end SessionRecorder

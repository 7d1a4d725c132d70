import SessionRecorder.Proofs.TurnReadBack
import SessionRecorder.Record.ContextMetadata

/-!
Which variables of the environment a context's first item tells. Of all that an environment holds
it depends on those that are allowed alone, and on one that names the owner of the process. Its
part for the environment holds the allowed variables that are not empty, and three that tell of
the session. Main statement: `allowed_environment_recorded`.
-/

namespace SessionRecorder

open Msgpack

/-! ## Members of maps -/

namespace Assoc

variable {κ ν : Type} [Ord κ] [Std.LawfulEqOrd κ]

/-- Where no key comes twice, what is found under a key is what stands there. -/
theorem find?_eq_some_iff_of_nodup {k : κ} {v : ν} {m : List (κ × ν)} (h : (m.map (·.1)).Nodup) :
    find? k m = some v ↔ (k, v) ∈ m := by
  refine ⟨mem_of_find?, fun hmem => ?_⟩
  induction m with
  | nil => cases hmem
  | cons e rest ih =>
    obtain ⟨l, w⟩ := e
    obtain ⟨hhead, hrest⟩ : l ∉ rest.map (·.1) ∧ (rest.map (·.1)).Nodup := List.nodup_cons.1 h
    rcases List.mem_cons.1 hmem with heq | hbehind
    · obtain ⟨rfl, rfl⟩ := Prod.mk.inj heq
      exact find?_cons_self k v rest
    · have hne : k ≠ l := by
        rintro rfl
        exact hhead (List.mem_map.2 ⟨(k, v), hbehind, rfl⟩)
      rw [find?_cons_of_ne hne]
      exact ih hrest hbehind

variable [Std.TransOrd κ]

/-- Entries with different keys are members of the map they are inserted into, beside those with
other keys that were there. -/
theorem mem_foldl_insert_iff {k : κ} {v : ν} {entries m : List (κ × ν)}
    (h : (entries.map (·.1)).Nodup) (hm : Ascending m) :
    (k, v) ∈ entries.foldl (fun m (k, v) => insert k v m) m ↔
      (k, v) ∈ entries ∨ k ∉ entries.map (·.1) ∧ (k, v) ∈ m := by
  have hreverse : (entries.reverse.map (·.1)).Nodup := by
    rw [List.map_reverse]
    exact List.nodup_reverse.2 h
  rw [← (ascending_foldl_insert entries hm).find?_eq_some_iff, find?_foldl_insert,
    Option.or_eq_some_iff, find?_eq_some_iff_of_nodup hreverse, find?_eq_none_iff,
    hm.find?_eq_some_iff]
  simp

end Assoc

/-- Of keys with values that may be missing, those that have one stand in the same order. -/
theorem keys_sublist {α κ ν : Type} (key : α → κ) (value : α → Option ν) (xs : List α) :
    ((xs.filterMap fun x => (value x).map (key x, ·)).map (·.1)).Sublist (xs.map key) := by
  induction xs with
  | nil => exact List.Sublist.refl _
  | cons x rest ih =>
    cases hvalue : value x with
    | none => simpa [List.filterMap_cons, hvalue] using ih.cons (key x)
    | some v => simpa [List.filterMap_cons, hvalue] using ih.cons_cons (key x)

/-! ## What is captured -/

namespace Identity

variable {machine : Machine} {env other : Environment}

theorem nonEmpty_eq_some_iff {name value : String} :
    env.nonEmpty name = some value ↔ env name = some value ∧ value ≠ "" := by
  simp [Environment.nonEmpty, Option.filter_eq_some_iff]

/-- Of an environment the allowed variables and the name of the owner are captured. -/
theorem capture_congr (h : ∀ name ∈ "LOGNAME" :: allowedVariables, env name = other name) :
    capture machine env = capture machine other := by
  have hsame {name : String} (hname : name ∈ "LOGNAME" :: allowedVariables) :
      env.nonEmpty name = other.nonEmpty name := by
    rw [Environment.nonEmpty, Environment.nonEmpty, h name hname]
  have hlisted : allowedVariables.filterMap (fun name => (env.nonEmpty name).map (name, ·)) =
      allowedVariables.filterMap fun name => (other.nonEmpty name).map (name, ·) :=
    List.filterMap_congr fun name hname => by rw [hsame (List.mem_cons_of_mem _ hname)]
  simp only [capture, hlisted, @hsame "USER" (by decide), @hsame "LOGNAME" (by decide),
    @hsame "HOSTNAME" (by decide)]

theorem ascending_environment : Assoc.Ascending (capture machine env).environment :=
  Assoc.ascending_ofList _

theorem mem_environment {name value : String} :
    (name, value) ∈ (capture machine env).environment ↔
      name ∈ allowedVariables ∧ env name = some value ∧ value ≠ "" := by
  have hnodup := (keys_sublist id env.nonEmpty allowedVariables).nodup (by decide)
  simp only [id] at hnodup
  rw [capture, Assoc.ofList, Assoc.mem_foldl_insert_iff hnodup List.Pairwise.nil,
    ← nonEmpty_eq_some_iff]
  simp

end Identity

/-! ## What is recorded -/

namespace Provenance

/-- The variables that tell of the session, of its agent and bundle if they have a name. -/
def ownVariables (o : Origin) : List (String × Option String) := [
  ("AMPLIFIER_AGENT", o.agent.bind nonEmpty),
  ("AMPLIFIER_BUNDLE", o.bundle.bind nonEmpty),
  ("AMPLIFIER_SESSION", some o.sessionId)]

variable {i : Identity} {o : Origin}

theorem nonEmpty_eq_some_iff {s value : String} :
    nonEmpty s = some value ↔ s = value ∧ value ≠ "" := by
  rw [nonEmpty, Option.ite_none_left_eq_some, Option.some.injEq]
  exact ⟨fun ⟨hne, h⟩ => ⟨h, h ▸ hne⟩, fun ⟨h, hne⟩ => ⟨h ▸ hne, h⟩⟩

theorem mem_ownVariables {name value : String} : (name, some value) ∈ ownVariables o ↔
    name = "AMPLIFIER_AGENT" ∧ o.agent = some value ∧ value ≠ "" ∨
    name = "AMPLIFIER_BUNDLE" ∧ o.bundle = some value ∧ value ≠ "" ∨
    name = "AMPLIFIER_SESSION" ∧ o.sessionId = value := by
  have htext (s : Option String) :
      some value = s.bind nonEmpty ↔ s = some value ∧ value ≠ "" := by
    cases s with
    | none => simp
    | some text => rw [Option.bind_some, eq_comm, nonEmpty_eq_some_iff, Option.some.injEq]
  simp only [ownVariables, List.mem_cons, Prod.mk.injEq, List.not_mem_nil, or_false, htext,
    Option.some.injEq, eq_comm (a := value)]

/-- None of the allowed variables has a name of the session's. -/
theorem not_mem_ownVariables {name : String} (h : name ∈ Identity.allowedVariables)
    (value : String) : (name, some value) ∉ ownVariables o := by
  have hnames : ∀ own ∈ ["AMPLIFIER_AGENT", "AMPLIFIER_BUNDLE", "AMPLIFIER_SESSION"],
      own ∉ Identity.allowedVariables := by decide
  intro hown
  refine hnames name ?_ h
  rcases mem_ownVariables.1 hown with ⟨rfl, _⟩ | ⟨rfl, _⟩ | ⟨rfl, _⟩ <;> simp

theorem ascending_recordedEnvironment (h : Assoc.Ascending i.environment) :
    Assoc.Ascending (recordedEnvironment i o) :=
  Assoc.ascending_foldl_insert _ h

/-- No variable of the process that has the name of one of the session's is left beside it. -/
theorem mem_recordedEnvironment (h : Assoc.Ascending i.environment) {name value : String} :
    (name, value) ∈ recordedEnvironment i o ↔ (name, some value) ∈ ownVariables o ∨
      (∀ own, (name, some own) ∉ ownVariables o) ∧ (name, value) ∈ i.environment := by
  have hnames : ((ownVariables o).map Prod.fst).Nodup := by
    simp only [ownVariables, List.map_cons, List.map_nil]
    decide
  have hnodup := (keys_sublist Prod.fst Prod.snd (ownVariables o)).nodup hnames
  refine (Assoc.mem_foldl_insert_iff hnodup h).trans ?_
  simp

end Provenance

/-! ## The first item of a context -/

namespace ContextMetadata

/-- What the first item of a context tells about the environment. -/
def recordedVariables? (item : Payload) : Option Msgpack := do
  let part ← item.get? Item.metadataTag
  let provenance ← part.field? provenanceTag
  provenance.field? Provenance.environmentTag

theorem recordedVariables?_item (m : ContextMetadata) (l : Lineage) (i : Identity) (time : Int64) :
    recordedVariables? (m.item l i time) =
      some (.map ((Provenance.recordedEnvironment i (m.origin l time)).map
        fun (name, value) => (.str name, .str value))) := by
  have hpart : (m.item l i time).get? Item.metadataTag = some (m.part l i time) :=
    Payload.get?_ofFields (by
      simp only [List.map_cons, List.map_nil, List.cons_append, List.nil_append]; decide) _
  have hprovenance : (m.part l i time).field? provenanceTag =
      some (Provenance.payload i (m.origin l time)).toMap := by
    rw [part, field?_toMap, Payload.get?_ofList]
    rfl
  have henvironment : (Provenance.payload i (m.origin l time)).toMap.field?
      Provenance.environmentTag = some (.map
        ((Provenance.recordedEnvironment i (m.origin l time)).map
          fun (name, value) => (.str name, .str value))) :=
    field?_ofFields (by simp only [List.map_cons, List.map_nil]; decide) _
  simp only [recordedVariables?, hpart, hprovenance, henvironment, Option.bind_eq_bind,
    Option.bind_some]

end ContextMetadata

open ContextMetadata

/-- Of two environments that agree on the allowed variables and on the second name of the owner,
the first items of a context have the same octets. What they tell about the environment are the
allowed variables that are not empty, with agent, bundle and session, in ascending order. -/
theorem allowed_environment_recorded (machine : Machine) (env other : Environment)
    (hagree : ∀ name ∈ "LOGNAME" :: Identity.allowedVariables, env name = other name)
    (m : ContextMetadata) (l : Lineage) (time : Int64) :
    (m.item l (.capture machine env) time).serialize =
      (m.item l (.capture machine other) time).serialize ∧
    ∃ told : List (String × String),
      recordedVariables? (m.item l (.capture machine env) time) =
        some (.map (told.map fun (name, value) => (.str name, .str value))) ∧
      Assoc.Ascending told ∧
      ∀ name value, (name, value) ∈ told ↔
        name ∈ Identity.allowedVariables ∧ env name = some value ∧ value ≠ "" ∨
        name = "AMPLIFIER_AGENT" ∧ l.agent = some value ∧ value ≠ "" ∨
        name = "AMPLIFIER_BUNDLE" ∧ m.bundle = value ∧ value ≠ "" ∨
        name = "AMPLIFIER_SESSION" ∧ l.sessionId = value := by
  refine ⟨by rw [Identity.capture_congr hagree], _, recordedVariables?_item m l _ time,
    Provenance.ascending_recordedEnvironment Identity.ascending_environment,
    fun name value => ?_⟩
  have hbundle : (m.origin l time).bundle = some value ↔ m.bundle = value := Option.some_inj
  rw [Provenance.mem_recordedEnvironment Identity.ascending_environment, Identity.mem_environment,
    Provenance.mem_ownVariables, hbundle, or_comm]
  refine or_congr_left ⟨And.right, fun hvariable => ⟨?_, hvariable⟩⟩
  exact Provenance.not_mem_ownVariables hvariable.1

/-- A token in the environment changes no octet, and neither it nor an empty variable is told. -/
theorem token_not_recorded :
    let shared := [("USER", "bob"), ("STAGE", "prod"), ("ENV", "")]
    let env : Environment := fun name => (("TOKEN", "secret") :: shared).lookup name
    let other : Environment := fun name => shared.lookup name
    let machine : Machine := ⟨⟨List.replicate 16 0, rfl⟩, 4242, "x86_64", some "devbox"⟩
    let m : ContextMetadata := ⟨"Turns", "amplifier", "web", "", none, none⟩
    let l : Lineage := ⟨"child_explorer", some "root", "root", some "explorer"⟩
    (∀ name ∈ "LOGNAME" :: Identity.allowedVariables, env name = other name) ∧
    (m.item l (.capture machine env) 10).serialize =
      (m.item l (.capture machine other) 10).serialize ∧
    ∃ told : List (String × String),
      recordedVariables? (m.item l (.capture machine env) 10) =
        some (.map (told.map fun (name, value) => (.str name, .str value))) ∧
      ("STAGE", "prod") ∈ told ∧ ("AMPLIFIER_AGENT", "explorer") ∈ told ∧
      ∀ value, ("TOKEN", value) ∉ told ∧ ("ENV", value) ∉ told := by
  intro shared env other machine m l
  have hagree : ∀ name ∈ "LOGNAME" :: Identity.allowedVariables, env name = other name := by
    decide
  obtain ⟨hoctets, told, htold, -, hmember⟩ :=
    allowed_environment_recorded machine env other hagree m l 10
  refine ⟨hagree, hoctets, told, htold, (hmember _ _).2 (.inl (by decide)),
    (hmember _ _).2 (.inr (.inl (by decide))), fun value => ⟨fun htoken => ?_, fun hempty => ?_⟩⟩
  · simpa [Identity.allowedVariables] using (hmember _ _).1 htoken
  · rcases (hmember _ _).1 hempty with ⟨-, hvalue, hne⟩ | hown
    · exact hne (Option.some.inj hvalue).symm
    · simp at hown

end SessionRecorder

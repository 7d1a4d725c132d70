import SessionRecorder.Settings.Load

/-!
Which of a setting's spellings counts. Of the entries whose keys have one camel case the last
gives the value, also where it is null, and a null gives none; so a null entry behind every other
spelling takes the place of their value, and any other null entry is as if it were not there.
Main statement: `load_insert_null`.
-/

namespace SessionRecorder

namespace Json

/-- Members that are null are not laid over anything. -/
theorem mergeMembers_filter (below source : List (String × Json)) :
    mergeMembers below (source.filter (!·.2.isNull)) = mergeMembers below source := by
  induction source generalizing below with
  | nil => rfl
  | cons e rest ih =>
    obtain ⟨key, value⟩ := e
    cases value with
    | null => exact ih below
    | _ => exact ih _

/-- Two sources merge alike if they have the same value, that is not null, under every key. -/
theorem mergeMembers_congr {source other : List (String × Json)} (hs : Assoc.Ascending source)
    (ho : Assoc.Ascending other)
    (h : ∀ key, (Json.object source).present? key = (Json.object other).present? key)
    (below : List (String × Json)) : mergeMembers below source = mergeMembers below other := by
  have hfilter : source.filter (!·.2.isNull) = other.filter (!·.2.isNull) := by
    refine Assoc.Ascending.ext (List.Pairwise.filter _ hs) (List.Pairwise.filter _ ho) fun key => ?_
    rw [Assoc.find?_filter hs (!·.isNull), Assoc.find?_filter ho (!·.isNull)]
    exact h key
  rw [← mergeMembers_filter, hfilter, mergeMembers_filter]

end Json

namespace Settings

variable {members others : List (String × Json)} {key : String}

/-- What the last of a setting's spellings says. -/
def spelled? (key : String) (members : List (String × Json)) : Option Json :=
  Assoc.find? key (normalizeMembers members)

/-- The value that members give a setting; null is none. -/
def given? (key : String) (members : List (String × Json)) : Option Json :=
  (spelled? key members).filter (!·.isNull)

/-- Nothing but the values that members give counts of them. -/
theorem load_congr (h : ∀ key, given? key members = given? key others) (env : Environment) :
    load (.object members) env = load (.object others) env := by
  have hmerge : Json.merge ({} : Settings).toJson (normalizeKeys (.object members)) =
      Json.merge ({} : Settings).toJson (normalizeKeys (.object others)) :=
    congrArg Json.object
      (Json.mergeMembers_congr (Assoc.ascending_ofList _) (Assoc.ascending_ofList _) h _)
  simp only [load, ofConfig, hmerge]

theorem spelled?_append (key : String) (members others : List (String × Json)) :
    spelled? key (members ++ others) = (spelled? key others).or (spelled? key members) := by
  simp only [spelled?, normalizeMembers, Assoc.find?_ofList, List.filter_append, List.map_append,
    List.reverse_append, Assoc.find?_append]

theorem spelled?_cons (key : String) (e : String × Json) (members : List (String × Json)) :
    spelled? key (e :: members) = (spelled? key members).or (spelled? key [e]) :=
  spelled?_append key [e] members

/-- A private member says nothing, and any other speaks of the camel case of its key alone. -/
theorem spelled?_single (other : String) (value : Json) :
    spelled? key [(other, value)] =
      if Text.startsWith other "_" = false ∧ camelCase other = key then some value else none := by
  unfold spelled? normalizeMembers
  cases hprivate : Text.startsWith other "_" with
  | true => simp [hprivate, Assoc.ofList, Assoc.find?]
  | false =>
    by_cases hkey : camelCase other = key
    · subst hkey
      simp [hprivate, Assoc.ofList, Assoc.insert, Assoc.find?_cons_self]
    · have hne : compare key (camelCase other) ≠ .eq :=
        fun h => hkey (Std.LawfulEqCmp.eq_of_compare h).symm
      simp only [List.filter_cons, hprivate, Bool.not_false, ↓reduceIte, List.filter_nil,
        List.map_cons, List.map_nil, Assoc.ofList, List.foldl_cons, Assoc.insert, List.foldl_nil,
        Assoc.find?, true_and, hkey]

/-- The members without all spellings of a setting. -/
def without (key : String) (members : List (String × Json)) : List (String × Json) :=
  members.filter fun e => camelCase e.1 != key

theorem spelled?_without (other : String) (members : List (String × Json)) :
    spelled? key (without other members) =
      if key = other then none else spelled? key members := by
  induction members with
  | nil => exact (ite_self none).symm
  | cons e rest ih =>
    obtain ⟨name, value⟩ := e
    rw [spelled?_cons, spelled?_single]
    by_cases hname : camelCase name = other
    · have hskip : without other ((name, value) :: rest) = without other rest :=
        List.filter_cons_of_neg (by simp [hname])
      rw [hskip, ih]
      by_cases hkey : key = other
      · rw [if_pos hkey, if_pos hkey]
      · have hne : camelCase name ≠ key := fun h => hkey (h.symm.trans hname)
        rw [if_neg hkey, if_neg hkey, if_neg fun h => hne h.2, Option.or_none]
    · have hkeep : without other ((name, value) :: rest) = (name, value) :: without other rest :=
        List.filter_cons_of_pos (by simp [hname])
      rw [hkeep, spelled?_cons, spelled?_single, ih]
      by_cases hkey : key = other
      · have hne : camelCase name ≠ key := fun h => hname (h.trans hkey)
        rw [if_pos hkey, if_pos hkey, if_neg fun h => hne h.2, Option.or_none]
      · rw [if_neg hkey, if_neg hkey]

/-- Whether a null under `key` hides a value: no other spelling of the setting comes behind it,
and those before it give one. -/
def hides (key : String) (members : List (String × Json)) : Bool :=
  !Text.startsWith key "_" &&
    (given? (camelCase key) (members.filter (compare key ·.1 == .lt))).isNone &&
    (given? (camelCase key) members).isSome

/-- A null entry under a new key leaves the result of loading as it is, unless it hides the value
that the other spellings give. Then the result is that without these. -/
theorem load_insert_null (h : Assoc.Ascending members) (hkey : Assoc.find? key members = none)
    (env : Environment) :
    load (.object (Assoc.insert key .null members)) env =
      load (.object (if hides key members then without (camelCase key) members else members))
        env := by
  refine load_congr (fun other => ?_) env
  obtain ⟨below, hsplit, hinsert⟩ := Assoc.exists_insert_eq h hkey .null
  unfold hides
  generalize members.filter (compare key ·.1 == .lt) = above at hsplit hinsert
  have hmembers : spelled? other members = (spelled? other above).or (spelled? other below) := by
    rw [hsplit, spelled?_append]
  have hinserted : spelled? other (Assoc.insert key .null members) =
      ((spelled? other above).or (spelled? other [(key, .null)])).or (spelled? other below) := by
    rw [hinsert, spelled?_append, spelled?_cons]
  rw [spelled?_single] at hinserted
  by_cases hown : Text.startsWith key "_" = false ∧ camelCase key = other
  · rw [if_pos hown] at hinserted
    obtain ⟨hpublic, rfl⟩ := hown
    cases habove : spelled? (camelCase key) above with
    | some value =>
      -- A spelling behind the null counts, with it and without it.
      rw [habove, Option.some_or] at hmembers hinserted
      have hgiven : given? (camelCase key) above = given? (camelCase key) members := by
        rw [given?, given?, habove, hmembers]
      rw [hgiven, given?, hinserted, Option.some_or, ← hmembers, ← given?]
      cases hvalue : given? (camelCase key) members <;> simp [hvalue]
    | none =>
      -- The null counts: no value is given, as if no spelling before it were there.
      rw [habove, Option.none_or, Option.some_or] at hinserted
      have hnothing : given? (camelCase key) (Assoc.insert key .null members) = none := by
        rw [given?, hinserted]
        rfl
      have hwithout : given? (camelCase key) (without (camelCase key) members) = none := by
        rw [given?, spelled?_without, if_pos rfl]
        rfl
      have hgiven : given? (camelCase key) above = none := by
        rw [given?, habove]
        rfl
      rw [hnothing, hgiven, hpublic]
      cases hvalue : given? (camelCase key) members <;> simp [hvalue, hwithout]
  · rw [if_neg hown, Option.or_none, ← hmembers] at hinserted
    rw [given?, hinserted, ← given?]
    split
    · rename_i hhides
      simp only [Bool.and_eq_true, Bool.not_eq_true'] at hhides
      have hne : other ≠ camelCase key := fun h => hown ⟨hhides.1.1, h.symm⟩
      rw [given?, given?, spelled?_without, if_neg hne]
    · rfl

/-- A null in front of the spelling that gives the port. -/
theorem null_before_value_ignored :
    let config : List (String × Json) :=
      [("cxdbHost", .string "h"), ("cxdb_port", .int (.ofUInt64 7000))]
    let unset : Environment := fun _ => none
    Assoc.Ascending config ∧ Assoc.find? "cxdbPort" config = none ∧
    load (.object (Assoc.insert "cxdbPort" .null config)) unset = load (.object config) unset ∧
    (load (.object config) unset).1.toOption.map (·.port) = some 7000 := by
  intro config unset
  have hascending : Assoc.Ascending config := by simp only [config, Assoc.Ascending]; decide
  have hload := @load_insert_null config "cxdbPort" hascending rfl unset
  have hvisible : hides "cxdbPort" config = false := by decide +kernel
  rw [hvisible] at hload
  exact ⟨hascending, rfl, hload, by decide +kernel⟩

/-- A null in the spelling that is read last hides the host that the other spelling gives, and so
turns the recorder off. -/
theorem null_spelling_hides_host :
    let config : List (String × Json) := [("cxdbHost", .string "h")]
    let unset : Environment := fun _ => none
    Assoc.Ascending config ∧ Assoc.find? "cxdb_host" config = none ∧
    (load (.object config) unset).1.toOption.map (·.host) = some "h" ∧
    (load (.object (Assoc.insert "cxdb_host" .null config)) unset).1.toOption.map (·.host) =
      some "" ∧
    load (.object (Assoc.insert "cxdb_host" .null config)) unset ≠ load (.object config) unset := by
  intro config unset
  have hgiven : (load (.object config) unset).1.toOption.map (·.host) = some "h" := by
    decide +kernel
  have hhidden : (load (.object (Assoc.insert "cxdb_host" .null config)) unset).1.toOption.map
      (·.host) = some "" := by decide +kernel
  refine ⟨List.pairwise_singleton .., rfl, hgiven, hhidden, fun hsame => ?_⟩
  rw [hsame, hgiven] at hhidden
  exact absurd hhidden (by decide)

end Settings

end SessionRecorder

import SessionRecorder.Proofs.Msgpack.JsonImage
import SessionRecorder.Proofs.SettingsRoundTrip

/-!
What stands in one value laid over another, at every path of keys. Under one key the two values
found there are laid over each other again, unless the upper one has none (`get?_merge`); so each
law is an induction on the path, and that a source laid over twice changes nothing is one on the
source. Main statement: `merge_at_every_path`.
-/

namespace SessionRecorder

namespace Json

/-- The value that keys lead to, each of them the key of a member of the object before. -/
def at? : List String → Json → Option Json
  | [], data => some data
  | key :: rest, data => (data.get? key).bind (at? rest)

/-- The value that keys lead to, unless it is null. -/
def presentAt? (path : List String) (data : Json) : Option Json :=
  (data.at? path).filter (!·.isNull)

theorem eq_null_of_isNull {value : Json} (h : value.isNull = true) : value = .null := by
  cases value with
  | null => rfl
  | _ => cases h

/-- No key leads on from null, and where a key has no value it counts as null. -/
theorem presentAt?_cons (key : String) (rest : List String) (data : Json) :
    data.presentAt? (key :: rest) = ((data.get? key).getD .null).presentAt? rest := by
  rw [presentAt?, at?]
  cases data.get? key with
  | none => cases rest <;> rfl
  | some value => rfl

theorem get?_of_present? {key : String} {data value : Json} (h : data.present? key = some value) :
    data.get? key = some value := (Option.filter_eq_some_iff.1 h).1

theorem present?_of_get? {key : String} {data value : Json} (h : data.get? key = some value)
    (hvalue : value.isNull = false) : data.present? key = some value := by
  rw [present?, h]
  simp [hvalue]

theorem wellFormed_of_get? {key : String} {data value : Json} (hdata : data.WellFormed)
    (h : data.get? key = some value) : value.WellFormed := by
  cases data with
  | object members => exact wellFormedMembers_iff.1 hdata.2 _ (Assoc.mem_of_find? h)
  | _ => cases h

theorem wellFormed_getD_get? {data : Json} (hdata : data.WellFormed) (key : String) :
    ((data.get? key).getD .null).WellFormed := by
  cases h : data.get? key with
  | none => trivial
  | some value => exact wellFormed_of_get? hdata h

/-! ## Under one key -/

theorem merge_null (source : Json) : merge .null source = source := by
  cases source <;> rfl

theorem mergeMembers_cons {value : Json} (hvalue : value.isNull = false) (key : String)
    (below rest : List (String × Json)) :
    mergeMembers below ((key, value) :: rest) = mergeMembers
      (Assoc.insert key (merge ((Assoc.find? key below).getD .null) value) below) rest := by
  have hnull : value ≠ .null := by
    rintro rfl
    cases hvalue
  rw [mergeMembers]
  · cases Assoc.find? key below with
    | none => rw [Option.getD_none, merge_null]
    | some old => rfl
  · exact hnull

theorem find?_mergeMembers {members : List (String × Json)} (h : Assoc.Ascending members)
    (below : List (String × Json)) (key : String) :
    Assoc.find? key (mergeMembers below members) = match (object members).present? key with
      | some value => some (merge ((Assoc.find? key below).getD .null) value)
      | none => Assoc.find? key below := by
  induction members generalizing below with
  | nil => rfl
  | cons m rest ih =>
    obtain ⟨own, value⟩ := m
    obtain ⟨hhead, hrest⟩ := List.pairwise_cons.1 h
    have hlater : (object rest).present? own = none := by
      rw [present?, get?, Assoc.find?_of_all_lt hhead]
      rfl
    by_cases hkey : own = key
    · subst hkey
      have hfirst : (object ((own, value) :: rest)).present? own =
          (some value).filter (!·.isNull) := by
        rw [present?, get?, Assoc.find?_cons_self]
      cases hvalue : value.isNull with
      | true =>
        obtain rfl := eq_null_of_isNull hvalue
        rw [mergeMembers, ih hrest, hlater, hfirst]
        rfl
      | false =>
        rw [mergeMembers_cons hvalue, ih hrest, hlater, hfirst, Option.filter_some]
        simp only [hvalue, Bool.not_false, ↓reduceIte, Assoc.find?_insert_self]
    · have hother : (object ((own, value) :: rest)).present? key = (object rest).present? key := by
        rw [present?, get?, Assoc.find?_cons_of_ne (Ne.symm hkey), present?, get?]
      rw [hother]
      cases hvalue : value.isNull with
      | true =>
        obtain rfl := eq_null_of_isNull hvalue
        exact ih hrest below
      | false => rw [mergeMembers_cons hvalue, ih hrest, Assoc.find?_insert_of_ne hkey]

section

variable {source value : Json} {key : String} (target : Json)

/-- What a source has under a key is laid over what the target has there. -/
theorem get?_merge_of_present (hsource : source.WellFormed)
    (h : source.present? key = some value) :
    (merge target source).get? key = some (merge ((target.get? key).getD .null) value) := by
  cases source with
  | object members =>
    cases target with
    | object below =>
      have hfind := find?_mergeMembers hsource.1 below key
      rw [h] at hfind
      exact hfind
    | _ => exact (get?_of_present? h).trans (congrArg some (merge_null value).symm)
  | _ => cases h

/-- Where a source has nothing, the target's value stays, and no other one than null is new. -/
theorem get?_merge_of_missing {members : List (String × Json)} (hsource : Assoc.Ascending members)
    (h : (object members).present? key = none) :
    (merge target (.object members)).get? key = target.get? key ∨
      target.get? key = none ∧ (object members).get? key = some .null ∧
        (merge target (.object members)).get? key = some .null := by
  cases target with
  | object below =>
    have hfind := find?_mergeMembers hsource below key
    rw [h] at hfind
    exact .inl hfind
  | _ =>
    change (object members).get? key = none ∨
      _ ∧ (object members).get? key = some .null ∧ (object members).get? key = some .null
    cases hget : (object members).get? key with
    | none => exact .inl rfl
    | some value =>
      cases hnull : value.isNull with
      | true => exact .inr ⟨rfl, by rw [eq_null_of_isNull hnull], by rw [eq_null_of_isNull hnull]⟩
      | false => rw [present?_of_get? hget hnull] at h; cases h

theorem getD_get?_merge_of_missing {members : List (String × Json)}
    (hsource : Assoc.Ascending members) (h : (object members).present? key = none) :
    ((merge target (.object members)).get? key).getD .null = (target.get? key).getD .null := by
  rcases get?_merge_of_missing target hsource h with hsame | ⟨hnone, _, hnull⟩
  · rw [hsame]
  · rw [hnone, hnull]
    rfl

end

/-! ## At a path -/

/-- What a source has at a path, other than null and objects, stands there. -/
theorem at?_merge_of_isWhole {path : List String} {source value : Json} (target : Json)
    (hsource : source.WellFormed) (h : source.at? path = some value)
    (hvalue : value.isWhole = true) : (merge target source).at? path = some value := by
  induction path generalizing target source with
  | nil =>
    obtain rfl : source = value := Option.some.inj h
    exact congrArg some (merge_of_isWhole hvalue target)
  | cons key rest ih =>
    obtain ⟨inner, hinner, hrest⟩ := Option.bind_eq_some_iff.1 h
    have hpresent : inner.isNull = false := by
      cases inner with
      | null =>
        cases rest with
        | nil =>
          obtain rfl := Option.some.inj hrest
          cases hvalue
        | cons => cases hrest
      | _ => rfl
    rw [at?, get?_merge_of_present _ hsource (present?_of_get? hinner hpresent), Option.bind_some]
    exact ih _ (wellFormed_of_get? hsource hinner) hrest

/-- Where the objects of a source end in one without the next key, the target's value stays. -/
theorem presentAt?_merge_of_missing {front : List String} {source : Json}
    {inner : List (String × Json)} {key : String} (target : Json) (rest : List String)
    (hsource : source.WellFormed) (h : source.at? front = some (.object inner))
    (hmissing : (object inner).present? key = none) :
    (merge target source).presentAt? (front ++ key :: rest) =
      target.presentAt? (front ++ key :: rest) := by
  induction front generalizing target source with
  | nil =>
    obtain rfl : source = .object inner := Option.some.inj h
    rw [List.nil_append, presentAt?_cons, getD_get?_merge_of_missing _ hsource.1 hmissing,
      presentAt?_cons]
  | cons own front ih =>
    obtain ⟨next, hnext, hfront⟩ := Option.bind_eq_some_iff.1 h
    have hpresent : next.isNull = false := by
      cases next with
      | null => cases front <;> cases hfront
      | _ => rfl
    rw [List.cons_append, presentAt?_cons,
      get?_merge_of_present _ hsource (present?_of_get? hnext hpresent), Option.getD_some,
      ih _ (wellFormed_of_get? hsource hnext) hfront, presentAt?_cons]

/-- A path leads somewhere only if it does so in one of the two values. -/
theorem at?_of_at?_merge {path : List String} {target source : Json} (hsource : source.WellFormed)
    (h : (merge target source).at? path ≠ none) :
    target.at? path ≠ none ∨ source.at? path ≠ none := by
  induction path generalizing target source with
  | nil => exact .inl (Option.some_ne_none target)
  | cons key rest ih =>
    cases source with
    | object members =>
      cases hpresent : (object members).present? key with
      | some inner =>
        have hinner := get?_of_present? hpresent
        rw [at?, get?_merge_of_present _ hsource hpresent, Option.bind_some] at h
        rw [at?, at?, hinner, Option.bind_some]
        rcases ih (wellFormed_of_get? hsource hinner) h with hbelow | habove
        · cases htarget : target.get? key with
          | some old =>
            rw [htarget] at hbelow
            exact .inl hbelow
          | none =>
            -- Only the empty path leads from null, and it leads somewhere from everything.
            cases rest with
            | nil => exact .inr (Option.some_ne_none inner)
            | cons => exact absurd (by rw [htarget]; rfl) hbelow
        · exact .inr habove
      | none =>
        rw [at?] at h ⊢
        rcases get?_merge_of_missing target hsource.1 hpresent with hsame | hnull
        · rw [hsame] at h
          exact .inl h
        · rw [hnull.2.2, ← hnull.2.1] at h
          exact .inr h
    | _ => exact .inr h

/-! ## Laid over twice -/

theorem ascending_mergeMembers {below : List (String × Json)} (h : Assoc.Ascending below)
    (members : List (String × Json)) : Assoc.Ascending (mergeMembers below members) := by
  induction members generalizing below with
  | nil => exact h
  | cons m rest ih =>
    obtain ⟨key, value⟩ := m
    cases hvalue : value.isNull with
    | true =>
      obtain rfl := eq_null_of_isNull hvalue
      exact ih h
    | false =>
      rw [mergeMembers_cons hvalue]
      exact ih (Assoc.ascending_insert h)

theorem exists_merge_object {target : Json} {members : List (String × Json)}
    (htarget : target.WellFormed) (hsource : Assoc.Ascending members) :
    ∃ merged, merge target (.object members) = .object merged ∧ Assoc.Ascending merged := by
  cases target with
  | object below => exact ⟨_, rfl, ascending_mergeMembers htarget.1 members⟩
  | _ => exact ⟨members, rfl, hsource⟩

theorem sizeOf_lt_of_present? {members : List (String × Json)} {key : String} {value : Json}
    (h : (object members).present? key = some value) : sizeOf value < sizeOf (object members) := by
  have hmember := List.sizeOf_lt_of_mem (Assoc.mem_of_find? (get?_of_present? h))
  simp only [Prod.mk.sizeOf_spec, object.sizeOf_spec] at hmember ⊢
  omega

theorem merge_merge (target source : Json) (htarget : target.WellFormed)
    (hsource : source.WellFormed) :
    merge (merge target source) source = merge target source := by
  cases hobject : source with
  | object members =>
    subst hobject
    obtain ⟨merged, hmerged, hascending⟩ := exists_merge_object htarget hsource.1
    rw [hmerged]
    refine congrArg object ((ascending_mergeMembers hascending members).ext hascending ?_)
    intro key
    rw [find?_mergeMembers hsource.1]
    cases hpresent : (object members).present? key with
    | none => rfl
    | some value =>
      have hfirst := get?_merge_of_present target hsource hpresent
      rw [hmerged] at hfirst
      have hinner := merge_merge ((target.get? key).getD .null) value
        (wellFormed_getD_get? htarget key) (wellFormed_of_get? hsource (get?_of_present? hpresent))
      change some (merge ((Assoc.find? key merged).getD .null) value) = Assoc.find? key merged
      rw [show Assoc.find? key merged = _ from hfirst, Option.getD_some, hinner]
  | _ => rfl
termination_by sizeOf source
decreasing_by exact hobject ▸ sizeOf_lt_of_present? hpresent

/-- At every path one value laid over another has what the upper one has there, if that is neither
null nor an object, and what the lower one has there, if the objects of the upper one end before the
path does; nothing else leads anywhere. To lay the upper one over the result changes nothing, and
neither does an empty object. -/
theorem merge_at_every_path (target : Json) (members : List (String × Json))
    (htarget : target.WellFormed) (hsource : (Json.object members).WellFormed) :
    let source : Json := .object members
    let merged := merge target source
    (∀ path value, source.at? path = some value → value.isWhole = true →
      merged.at? path = some value) ∧
    (∀ front inner key rest, source.at? front = some (.object inner) →
      (Json.object inner).present? key = none →
      merged.presentAt? (front ++ key :: rest) = target.presentAt? (front ++ key :: rest)) ∧
    (∀ path, merged.at? path ≠ none → target.at? path ≠ none ∨ source.at? path ≠ none) ∧
    merge merged source = merged ∧
    ∀ own, merge (.object own) (.object []) = .object own := by
  intro source merged
  refine ⟨fun path value => at?_merge_of_isWhole target hsource,
    fun front inner key rest => presentAt?_merge_of_missing target rest hsource,
    fun path => at?_of_at?_merge hsource, merge_merge target source htarget hsource, fun own => rfl⟩

/-- A member that is there, one that is null, one that only the target has, and a null below a key
that the target lacks. -/
theorem nulls_merged :
    let target : Json := .object [("a", .object [("b", .bool true), ("c", .null)]),
      ("d", .string "low")]
    let members : List (String × Json) := [("a", .object [("b", .object [("x", .null)]),
      ("e", .string "high")]), ("d", .null), ("f", .object [("g", .null)])]
    let merged := merge target (.object members)
    target.WellFormed ∧ (Json.object members).WellFormed ∧
    merged.at? ["a", "e"] = some (.string "high") ∧
    merged.presentAt? ["d"] = some (.string "low") ∧ merged.presentAt? ["f", "g"] = none ∧
    merge merged (.object members) = merged := by
  intro target members merged
  have htarget : target.WellFormed := by
    simp only [target, WellFormed, WellFormedMembers, Assoc.Ascending]
    decide
  have hsource : (Json.object members).WellFormed := by
    simp only [members, WellFormed, WellFormedMembers, Assoc.Ascending]
    decide
  obtain ⟨hupper, hlower, -, htwice, -⟩ := merge_at_every_path target members htarget hsource
  exact ⟨htarget, hsource, hupper ["a", "e"] _ rfl rfl, hlower [] members "d" [] rfl rfl,
    hlower ["f"] [("g", .null)] "g" [] rfl rfl, htwice⟩

end Json

end SessionRecorder

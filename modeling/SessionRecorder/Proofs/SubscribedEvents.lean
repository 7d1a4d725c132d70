import Mathlib.Data.List.Basic
import SessionRecorder.Subscription

/-!
The events of a session, told without the order of the work. Each pattern is valid or not by
itself, and a name is excluded or not by the set of them (`excludes_iff`); the pass over the names
keeps those that are not excluded where they first stand. Main statement: `subscribed_exactly`.
-/

namespace SessionRecorder

/-! ## Patterns, each by itself -/

namespace Glob

/-- Whether a pattern takes a regular expression that is nested too deep. -/
def TooDeep (p : Pattern) : Prop :=
  (∃ extended, scope p = .expression extended) ∧ nestingLimit < nesting p

/-- Whether a text is a pattern that can be matched. -/
def Valid (text : String) : Prop := ∃ p, ofText text = .ok p ∧ ¬ TooDeep p

theorem tooDeep?_eq_none_iff {ps : List Pattern} :
    tooDeep? ps = none ↔ ∀ p ∈ ps, ¬ TooDeep p := by
  let among (extended : Bool) := ps.filter fun p => scope p = .expression extended
  let refused (p : Pattern) := decide (nestingLimit < nesting p)
  have hparts : tooDeep? ps = none ↔
      (among true).find? refused = none ∧ (among false).findIdx? refused = none := by
    simp only [tooDeep?, among, refused]
    split
    · rename_i p hfound
      simp only [hfound, reduceCtorEq, false_and]
    · rename_i hfound
      simp only [hfound, Option.map_eq_none_iff, true_and]
  rw [hparts, List.find?_eq_none, List.findIdx?_eq_none_iff]
  simp only [among, refused, List.mem_filter, decide_eq_true_eq, decide_eq_false_iff_not, and_imp]
  constructor
  · rintro ⟨halone, htogether⟩ p hp ⟨⟨extended, hscope⟩, hdeep⟩
    cases extended with
    | true => exact halone p hp hscope hdeep
    | false => exact htogether p hp hscope hdeep
  · intro h
    exact ⟨fun p hp hscope hdeep => h p hp ⟨⟨true, hscope⟩, hdeep⟩,
      fun p hp hscope hdeep => h p hp ⟨⟨false, hscope⟩, hdeep⟩⟩

end Glob

namespace ExcludeFilter

variable {texts : List String} {ps : List Glob.Pattern} {f : ExcludeFilter}

theorem map_ofText_of_readPatterns (h : readPatterns texts = .ok ps) :
    texts.map Glob.ofText = ps.map .ok := by
  induction texts generalizing ps with
  | nil =>
    obtain rfl := Except.ok.inj h
    rfl
  | cons text rest ih =>
    rw [readPatterns] at h
    cases htext : Glob.ofText text with
    | error cause => simp [htext] at h
    | ok p =>
      cases hrest : readPatterns rest with
      | error cause => simp [htext, hrest, Except.map] at h
      | ok others =>
        simp only [htext, hrest, Except.map, Except.ok.injEq] at h
        subst h
        rw [List.map_cons, htext, ih hrest, List.map_cons]

theorem mem_of_readPatterns (h : readPatterns texts = .ok ps) (p : Glob.Pattern) :
    p ∈ ps ↔ ∃ text ∈ texts, Glob.ofText text = .ok p := by
  have hmap : p ∈ ps ↔ .ok p ∈ texts.map Glob.ofText := by
    rw [map_ofText_of_readPatterns h]
    simp
  rw [hmap, List.mem_map]

theorem exists_readPatterns (h : ∀ text ∈ texts, ∃ p, Glob.ofText text = .ok p) :
    ∃ ps, readPatterns texts = .ok ps := by
  induction texts with
  | nil => exact ⟨[], rfl⟩
  | cons text rest ih =>
    obtain ⟨⟨p, hp⟩, hrest⟩ := List.forall_mem_cons.1 h
    obtain ⟨ps, hps⟩ := ih hrest
    exact ⟨p :: ps, by simp [readPatterns, hp, hps, Except.map]⟩

/-- A filter is made of patterns that are read, none of which is too deep. -/
theorem ofTexts_ok_iff : ofTexts texts = .ok f ↔ ∃ ps, readPatterns texts = .ok ps ∧
    (∀ p ∈ ps, ¬ Glob.TooDeep p) ∧ f = ⟨Catalog.defaultExcludes ++ texts, ps⟩ := by
  unfold ofTexts
  cases readPatterns texts with
  | error cause => simp [bind, Except.bind]
  | ok ps =>
    simp only [bind, Except.bind, Except.ok.injEq, exists_eq_left', ← Glob.tooDeep?_eq_none_iff]
    cases Glob.tooDeep? ps <;> simp [eq_comm]

theorem exists_ofTexts_iff : (∃ f, ofTexts texts = .ok f) ↔ ∀ text ∈ texts, Glob.Valid text := by
  constructor
  · rintro ⟨f, hf⟩ text htext
    obtain ⟨ps, hps, hdepth, -⟩ := ofTexts_ok_iff.1 hf
    have hread : Glob.ofText text ∈ ps.map .ok := by
      rw [← map_ofText_of_readPatterns hps]
      exact List.mem_map_of_mem htext
    obtain ⟨p, hp, htext⟩ := List.mem_map.1 hread
    exact ⟨p, htext.symm, hdepth p hp⟩
  · intro hvalid
    have hread (text) (htext : text ∈ texts) : ∃ p, Glob.ofText text = .ok p :=
      (hvalid text htext).imp fun _ => And.left
    obtain ⟨ps, hps⟩ := exists_readPatterns hread
    refine ⟨_, ofTexts_ok_iff.2 ⟨ps, hps, fun p hp => ?_, rfl⟩⟩
    obtain ⟨text, htext, hread⟩ := (mem_of_readPatterns hps p).1 hp
    obtain ⟨q, hq, hdepth⟩ := hvalid text htext
    obtain rfl : p = q := Except.ok.inj (hread.symm.trans hq)
    exact hdepth

theorem excludes_iff (h : ofTexts texts = .ok f) (name : String) : f.excludes name = true ↔
    name ∈ Catalog.defaultExcludes ∨ name ∈ texts ∨
      ∃ text ∈ texts, ∃ p, Glob.ofText text = .ok p ∧ Glob.matchesName p name = true := by
  obtain ⟨ps, hps, -, rfl⟩ := ofTexts_ok_iff.1 h
  have hmatched : (∃ p ∈ ps, Glob.matchesName p name = true) ↔
      ∃ text ∈ texts, ∃ p, Glob.ofText text = .ok p ∧ Glob.matchesName p name = true := by
    simp only [mem_of_readPatterns hps]
    constructor
    · rintro ⟨p, ⟨text, htext, hread⟩, hname⟩
      exact ⟨text, htext, p, hread, hname⟩
    · rintro ⟨text, htext, p, hread, hname⟩
      exact ⟨p, ⟨text, htext, hread⟩, hname⟩
  rw [excludes, Bool.or_eq_true, List.contains_iff_mem, List.mem_append, List.any_eq_true, hmatched,
    or_assoc]

/-- The same patterns in another order, or more often, make a filter that excludes the same. -/
theorem exists_ofTexts_same (h : ofTexts texts = .ok f) {others : List String}
    (hothers : ∀ text, text ∈ others ↔ text ∈ texts) :
    ∃ g, ofTexts others = .ok g ∧ g.excludes = f.excludes := by
  have hvalid := exists_ofTexts_iff.1 ⟨f, h⟩
  obtain ⟨g, hg⟩ := exists_ofTexts_iff.2 fun text htext => hvalid text ((hothers text).1 htext)
  refine ⟨g, hg, funext fun name => Bool.eq_iff_iff.2 ?_⟩
  rw [excludes_iff hg, excludes_iff h]
  simp only [hothers]

end ExcludeFilter

/-! ## One pass over the names -/

namespace Subscription

variable {wanted : String → Bool}

theorem mem_firstWanted {seen names : List String} {name : String} :
    name ∈ firstWanted wanted seen names ↔ name ∈ names ∧ name ∉ seen ∧ wanted name = true := by
  induction names generalizing seen with
  | nil => simp [firstWanted]
  | cons first rest ih =>
    simp only [firstWanted, List.contains_iff_mem]
    grind

/-- What is kept stands in the order in which it first stood. -/
theorem pairwise_firstWanted (wanted : String → Bool) (seen names : List String) :
    (firstWanted wanted seen names).Pairwise fun x y => names.idxOf x < names.idxOf y := by
  induction names generalizing seen with
  | nil => exact .nil
  | cons first rest ih =>
    -- Behind `first` no name that has been seen is kept, so all of them stand one place further on.
    have hlater (seen' : List String) (hseen' : first ∈ seen') :
        (firstWanted wanted seen' rest).Pairwise fun x y =>
          (first :: rest).idxOf x < (first :: rest).idxOf y := by
      refine (ih seen').imp_of_mem fun hx hy hlt => ?_
      have hne {z : String} (hz : z ∈ firstWanted wanted seen' rest) : first ≠ z := by
        rintro rfl
        exact (mem_firstWanted.1 hz).2.1 hseen'
      rw [List.idxOf_cons_ne _ (hne hx), List.idxOf_cons_ne _ (hne hy)]
      omega
    simp only [firstWanted, List.contains_iff_mem]
    split
    · rename_i hseen
      exact hlater seen hseen
    · split
      · refine List.Pairwise.cons (fun y hy => ?_) (hlater _ (by simp))
        have hne : first ≠ y := by
          rintro rfl
          exact (mem_firstWanted.1 hy).2.1 (by simp)
        rw [List.idxOf_cons_self, List.idxOf_cons_ne _ hne]
        omega
      · exact hlater _ (by simp)

theorem mem_announced_iff {name : String} {contribution : Json} :
    name ∈ announced contribution ↔ contribution = .string name ∨
      ∃ items, contribution = .array items ∧ .string name ∈ items := by
  have hitem (item : Json) : item.asString? = some name ↔ item = .string name := by
    cases item <;> simp [Json.asString?]
  cases contribution <;> simp [announced, hitem, eq_comm]

/-- All names in question, when what other modules announce cannot be had counts as nothing. -/
def named (contributions : Except String (List Json)) (s : Settings) : List String :=
  candidates (contributions.toOption.getD []) s

theorem mem_named_iff {contributions : Except String (List Json)} {s : Settings} {name : String} :
    name ∈ named contributions s ↔
      name ∈ Catalog.canonicalEvents ∨ name ∈ Catalog.moduleEvents ∨
      (∃ contribution ∈ contributions.toOption.getD [], contribution = .string name ∨
        ∃ items, contribution = .array items ∧ .string name ∈ items) ∨
      name ∈ s.additionalEvents := by
  simp only [named, candidates, List.mem_append, List.mem_flatMap, mem_announced_iff, or_assoc]

theorem events_of_ofTexts (contributions : Except String (List Json)) (s : Settings)
    {f : ExcludeFilter} (h : ExcludeFilter.ofTexts s.excludeEvents = .ok f) :
    (events contributions s).1 =
      .ok (firstWanted (!f.excludes ·) [] (named contributions s)) := by
  cases contributions <;> simp [events, h, Except.map, named, Except.toOption]

end Subscription

open Subscription

/-- With valid patterns the events listened to are the known ones, those of the delegation of tasks,
those that are announced, one by one or in arrays, and the additional ones, but for the excluded
ones: each once, in the order in which they are first named. A name is excluded just if it is so by
default, or is a pattern, or matches one, so the order of the patterns and how often one of them
is given do not matter. -/
theorem subscribed_exactly (contributions : Except String (List Json)) (s : Settings)
    {f : ExcludeFilter} (hvalid : ExcludeFilter.ofTexts s.excludeEvents = .ok f) :
    let announced := contributions.toOption.getD []
    let named := Catalog.canonicalEvents ++ Catalog.moduleEvents ++
      announced.flatMap Subscription.announced ++ s.additionalEvents
    ∃ names, (Subscription.events contributions s).1 = .ok names ∧
      (∀ name, name ∈ names ↔
        (name ∈ Catalog.canonicalEvents ∨ name ∈ Catalog.moduleEvents ∨
          (∃ contribution ∈ announced, contribution = .string name ∨
            ∃ items, contribution = .array items ∧ .string name ∈ items) ∨
          name ∈ s.additionalEvents) ∧ f.excludes name = false) ∧
      names.Nodup ∧ names.Pairwise (fun x y => named.idxOf x < named.idxOf y) ∧
      (∀ name, f.excludes name = true ↔
        name ∈ Catalog.defaultExcludes ∨ name ∈ s.excludeEvents ∨
          ∃ text ∈ s.excludeEvents, ∃ p, Glob.ofText text = .ok p ∧
            Glob.matchesName p name = true) ∧
      ∀ texts, (∀ text, text ∈ texts ↔ text ∈ s.excludeEvents) →
        (Subscription.events contributions { s with excludeEvents := texts }).1 = .ok names := by
  intro announced named
  have horder := pairwise_firstWanted (!f.excludes ·) [] named
  refine ⟨_, events_of_ofTexts contributions s hvalid, fun name => ?_, ?_, horder,
    ExcludeFilter.excludes_iff hvalid, fun texts htexts => ?_⟩
  · rw [mem_firstWanted, mem_named_iff, Bool.not_eq_true']
    simp only [List.not_mem_nil, not_false_eq_true, true_and]
    rfl
  · exact horder.imp fun hlt heq => by simp [heq] at hlt
  · obtain ⟨g, hg, hsame⟩ := ExcludeFilter.exists_ofTexts_same hvalid htexts
    rw [← hsame]
    exact events_of_ofTexts contributions { s with excludeEvents := texts } hg

/-- Names that are known, announced twice, or no texts, and two patterns of which one is a name. -/
theorem announced_and_excluded :
    let contributions : Except String (List Json) := .ok [
      .array [.string "custom:one", .string "tool:pre", .null], .string "custom:two",
      .object [], .string "custom:one"]
    let s : Settings := { additionalEvents := ["custom:three", "custom:two"]
                          excludeEvents := ["cancel:*", "tool:pre"] }
    ∃ f names, ExcludeFilter.ofTexts s.excludeEvents = .ok f ∧
      (Subscription.events contributions s).1 = .ok names ∧
      "custom:three" ∈ names ∧ "cancel:requested" ∉ names ∧ "tool:pre" ∉ names ∧ names.Nodup ∧
      (Subscription.events contributions
        { s with excludeEvents := ["tool:pre", "cancel:*", "tool:pre"] }).1 = .ok names := by
  intro contributions s
  have hvalues : (ExcludeFilter.ofTexts s.excludeEvents).toOption.map (fun f =>
      (f.excludes "cancel:requested", f.excludes "custom:three")) = some (true, false) := by
    decide +kernel
  obtain ⟨f, hvalid, hcancel, hthree⟩ : ∃ f, ExcludeFilter.ofTexts s.excludeEvents = .ok f ∧
      f.excludes "cancel:requested" = true ∧ f.excludes "custom:three" = false := by
    cases hread : ExcludeFilter.ofTexts s.excludeEvents with
    | error cause => simp [hread, Except.toOption] at hvalues
    | ok f => exact ⟨f, rfl, by simpa [hread, Except.toOption] using hvalues⟩
  obtain ⟨names, hnames, hmem, hnodup, -, hexcluded, hsame⟩ :=
    subscribed_exactly contributions s hvalid
  have htool : f.excludes "tool:pre" = true := (hexcluded _).2 (.inr (.inl (by simp [s])))
  have hadditional : "custom:three" ∈ s.additionalEvents := by simp [s]
  refine ⟨f, names, hvalid, hnames, (hmem _).2 ⟨.inr (.inr (.inr hadditional)), hthree⟩,
    fun h => ?_, fun h => ?_, hnodup, hsame _ fun text => ?_⟩
  · rw [((hmem _).1 h).2] at hcancel
    cases hcancel
  · rw [((hmem _).1 h).2] at htool
    cases htool
  · simp only [s, List.mem_cons, List.not_mem_nil, or_false]
    tauto

end SessionRecorder

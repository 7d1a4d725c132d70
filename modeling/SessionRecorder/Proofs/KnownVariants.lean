import Mathlib.Data.List.Induction
import SessionRecorder.Deduplicator

/-!
The families of variants, and which variant is accepted where the known events decide. A name is
its base with the mark of its rank behind it, so two names of one family and one rank are the same
(`eq_of_family?_of_rank`), and a list of known events has at most one richest name of a family. The
table keeps that one, and neither an event nor the end of a cycle changes it. Main statement:
`richest_known_accepted`.
-/

namespace SessionRecorder

namespace Text

variable {back whole front : String}

theorem withoutEnd?_eq_some_iff : withoutEnd? back whole = some front ↔ whole = front ++ back := by
  unfold withoutEnd? endsWith
  constructor
  · intro h
    split at h
    · rename_i hback
      obtain ⟨cs, hcs⟩ := List.isSuffixOf_iff_suffix.1 hback
      rw [← hcs, List.length_append, Nat.add_sub_cancel, List.take_left] at h
      apply String.toList_injective
      rw [← Option.some.inj h, String.toList_append, String.toList_ofList, hcs]
    · cases h
  · rintro rfl
    rw [String.toList_append, if_pos (List.isSuffixOf_iff_suffix.2 (List.suffix_append _ _)),
      List.length_append, Nat.add_sub_cancel, List.take_left, String.ofList_toList]

theorem withoutEnd?_eq_none_iff : withoutEnd? back whole = none ↔ endsWith whole back = false := by
  unfold withoutEnd?
  split <;> simp_all

end Text

namespace Catalog

variable {event other f : String}

/-! ## Names of variants -/

/-- The variants of a family, from the poorest to the richest. -/
def variants (family : String) : List String := [family, family ++ ":debug", family ++ ":raw"]

/-- The family that an event is a variant of, if there is one. -/
def family? (event : String) : Option String := families.find? fun f => (variants f).contains event

/-- An event is the variant of its base that its rank tells. -/
theorem getElem?_rank (event : String) : (variants (base event))[rank event]? = some event := by
  have hends {back front : String} (h : Text.withoutEnd? back event = some front) :
      Text.endsWith event back = true := by
    rw [← Bool.not_eq_false, ← Text.withoutEnd?_eq_none_iff, h]
    exact Option.some_ne_none front
  unfold base rank variants
  cases hraw : Text.withoutEnd? ":raw" event with
  | some front =>
    rw [if_pos (hends hraw)]
    exact congrArg some (Text.withoutEnd?_eq_some_iff.1 hraw).symm
  | none =>
    rw [Text.withoutEnd?_eq_none_iff.1 hraw]
    cases hdebug : Text.withoutEnd? ":debug" event with
    | some front =>
      rw [hends hdebug]
      exact congrArg some (Text.withoutEnd?_eq_some_iff.1 hdebug).symm
    | none =>
      rw [Text.withoutEnd?_eq_none_iff.1 hdebug]
      rfl

theorem mem_variants_iff (hf : f ∈ families) : event ∈ variants f ↔ base event = f := by
  constructor
  · have hall : ∀ f ∈ families, ∀ event ∈ variants f, base event = f := by decide +kernel
    exact hall f hf event
  · rintro rfl
    exact List.mem_of_getElem? (getElem?_rank event)

theorem family?_eq_some_iff : family? event = some f ↔ f ∈ families ∧ base event = f := by
  constructor
  · intro h
    have hf := List.mem_of_find?_eq_some h
    have hmem := List.find?_some h
    exact ⟨hf, (mem_variants_iff hf).1 (List.contains_iff_mem.1 hmem)⟩
  · rintro ⟨hf, hbase⟩
    cases hfound : family? event with
    | none =>
      have hnone := List.find?_eq_none.1 hfound f hf
      exact absurd (List.contains_iff_mem.2 ((mem_variants_iff hf).2 hbase)) hnone
    | some g =>
      have hg := List.mem_of_find?_eq_some hfound
      have hmem := List.find?_some hfound
      rw [← hbase, (mem_variants_iff hg).1 (List.contains_iff_mem.1 hmem)]

theorem hasVariants_iff : hasVariants event = true ↔ family? event = some (base event) := by
  rw [family?_eq_some_iff, hasVariants, List.contains_iff_mem]
  exact (and_iff_left rfl).symm

theorem hasVariants_of_family? (h : family? event = some f) :
    hasVariants event = true ∧ base event = f := by
  obtain ⟨hf, rfl⟩ := family?_eq_some_iff.1 h
  exact ⟨List.contains_iff_mem.2 hf, rfl⟩

theorem family?_eq_none_iff : family? event = none ↔ hasVariants event = false := by
  cases hvariants : hasVariants event with
  | true => simp [hasVariants_iff.1 hvariants]
  | false =>
    refine iff_of_true ?_ rfl
    cases hfamily : family? event with
    | none => rfl
    | some f =>
      rw [(hasVariants_of_family? hfamily).1] at hvariants
      cases hvariants

/-- A mark behind another mark makes no variant. -/
example : ["llm:request:raw:raw", "llm:request:debug:raw", "llm:request:raw:debug"].map family? =
    [none, none, none] := by
  decide +kernel

/-- Variants of one family that are equally rich are the same. -/
theorem eq_of_family?_of_rank (he : family? event = some f) (ho : family? other = some f)
    (hrank : rank event = rank other) : event = other := by
  have hevent := getElem?_rank event
  have hother := getElem?_rank other
  rw [(hasVariants_of_family? he).2, hrank] at hevent
  rw [(hasVariants_of_family? ho).2, hevent] at hother
  exact Option.some.inj hother

/-! ## The highest rank of a family -/

variable {names : List String} {mark : Option Nat}

/-- Whether a mark is the highest rank that the names of a family have, if there are any. -/
def Highest (names : List String) (f : String) : Option Nat → Prop
  | none => ∀ x ∈ names, family? x ≠ some f
  | some high => (∃ x ∈ names, family? x = some f ∧ rank x = high) ∧
      ∀ x ∈ names, family? x = some f → rank x ≤ high

theorem highest_nil (f : String) : Highest [] f none := by
  intro x hx
  cases hx

/-- What is above the mark is above every name of the family. -/
theorem Highest.below_iff (h : Highest names f mark) (n : Nat) :
    (∀ high, mark = some high → high < n) ↔ ∀ x ∈ names, family? x = some f → rank x < n := by
  cases mark with
  | none =>
    constructor
    · intro _ x hx hx'
      exact absurd hx' (h x hx)
    · rintro _ high ⟨⟩
  | some high =>
    obtain ⟨⟨top, htop, htop', hrank⟩, hle⟩ := h
    constructor
    · intro hlt x hx hx'
      exact Nat.lt_of_le_of_lt (hle x hx hx') (hlt high rfl)
    · rintro hlt _ ⟨⟩
      rw [← hrank]
      exact hlt top htop htop'

/-- An event of the family that is above the mark sets it anew, and no other one does. -/
theorem Highest.append (h : Highest names f mark) (event : String) :
    Highest (names ++ [event]) f
      (if family? event = some f ∧ ∀ high, mark = some high → high < rank event
        then some (rank event) else mark) := by
  split
  · rename_i hevent
    obtain ⟨hfamily, habove⟩ := hevent
    refine ⟨⟨event, by simp, hfamily, rfl⟩, ?_⟩
    intro x hx hx'
    rcases List.mem_append.1 hx with hx | hx
    · exact Nat.le_of_lt ((h.below_iff _).1 habove x hx hx')
    · exact Nat.le_of_eq (congrArg rank (List.mem_singleton.1 hx))
  · rename_i hevent
    cases mark with
    | none =>
      intro x hx hx'
      rcases List.mem_append.1 hx with hx | hx
      · exact h x hx hx'
      · rw [List.mem_singleton.1 hx] at hx'
        exact hevent ⟨hx', by rintro _ ⟨⟩⟩
    | some high =>
      obtain ⟨⟨top, htop, htop'⟩, hle⟩ := h
      refine ⟨⟨top, List.mem_append_left _ htop, htop'⟩, ?_⟩
      intro x hx hx'
      rcases List.mem_append.1 hx with hx | hx
      · exact hle x hx hx'
      · rw [List.mem_singleton.1 hx] at hx' ⊢
        by_contra hlt
        refine hevent ⟨hx', ?_⟩
        rintro _ ⟨⟩
        omega

end Catalog

namespace Deduplicator

open Catalog

/-! ## Runs -/

/-- What comes to a deduplicator. -/
inductive Input where
  | event (name : String)
  | cycleEnd

def take (d : Deduplicator) : Input → Deduplicator
  | .event name => (d.accept name).2
  | .cycleEnd => d.reset

def takeAll (d : Deduplicator) (inputs : List Input) : Deduplicator := inputs.foldl take d

/-- Known events decide the same at all times. -/
theorem takeAll_ofKnown (known : List String) (inputs : List Input) :
    (ofKnown known).takeAll inputs = ofKnown known := by
  induction inputs with
  | nil => rfl
  | cons input rest ih =>
    have htake : (ofKnown known).take input = ofKnown known := by
      cases input with
      | cycleEnd => rfl
      | event name =>
        simp only [take, ofKnown, accept]
        split
        · split <;> rfl
        · rfl
    change ((ofKnown known).take input).takeAll rest = ofKnown known
    rw [htake, ih]

/-! ## The richest of the known events -/

variable {known : List String} {best : List (String × String)} {event f name : String}

/-- Whether an event is known, and richer than every other known variant of its family. -/
def Richest (known : List String) (event : String) : Prop :=
  event ∈ known ∧ ∀ x ∈ known, family? x = family? event → x ≠ event → rank x < rank event

theorem keepRicher_eq (best : List (String × String)) (event : String) :
    keepRicher best event =
      if hasVariants event = true ∧
          ∀ name, Assoc.find? (base event) best = some name → rank name < rank event
      then Assoc.insert (base event) event best else best := by
  unfold keepRicher
  cases hvariants : hasVariants event with
  | false => simp
  | true =>
    simp only [↓reduceIte, true_and]
    split
    · rename_i name hfind
      simp [hfind]
    · rename_i hfind
      simp [hfind]

/-- An event takes the place of a poorer name of its own family, or of none. -/
theorem find?_keepRicher (best : List (String × String)) (event f : String) :
    Assoc.find? f (keepRicher best event) =
      if family? event = some f ∧
          ∀ name, Assoc.find? f best = some name → rank name < rank event
      then some event else Assoc.find? f best := by
  rw [keepRicher_eq]
  by_cases hfamily : family? event = some f
  · obtain ⟨hvariants, rfl⟩ := hasVariants_of_family? hfamily
    simp only [hvariants, hfamily, true_and]
    split
    · exact Assoc.find?_insert_self ..
    · rfl
  · simp only [hfamily, false_and, ↓reduceIte]
    split
    · rename_i h
      have hne : base event ≠ f := fun heq => hfamily (heq ▸ hasVariants_iff.1 h.1)
      exact Assoc.find?_insert_of_ne hne ..
    · rfl

/-- The names that are kept are known, each under its family. -/
theorem known_of_find? (h : Assoc.find? f (known.foldl keepRicher []) = some name) :
    name ∈ known ∧ family? name = some f := by
  induction known using List.reverseRecOn with
  | nil => cases h
  | append_singleton known event ih =>
    rw [List.foldl_append, List.foldl_cons, List.foldl_nil, find?_keepRicher] at h
    split at h
    · rename_i hevent
      cases h
      exact ⟨by simp, hevent.1⟩
    · exact ⟨List.mem_append_left _ (ih h).1, (ih h).2⟩

/-- None of the family is richer. -/
theorem highest_find? (known : List String) (f : String) :
    Highest known f ((Assoc.find? f (known.foldl keepRicher [])).map rank) := by
  induction known using List.reverseRecOn with
  | nil => exact highest_nil f
  | append_singleton known event ih =>
    have happend := ih.append event
    rw [List.foldl_append, List.foldl_cons, List.foldl_nil, find?_keepRicher]
    cases hfind : Assoc.find? f (known.foldl keepRicher []) with
    | none =>
      rw [hfind] at happend
      simpa [apply_ite] using happend
    | some name =>
      rw [hfind] at happend
      simpa [apply_ite] using happend

/-- The name that is kept of a family is the richest one. -/
theorem find?_eq_iff_richest (hfind : Assoc.find? f (known.foldl keepRicher []) = some name)
    (hevent : family? event = some f) : name = event ↔ Richest known event := by
  obtain ⟨hname, hfamily⟩ := known_of_find? hfind
  have hhighest := highest_find? known f
  rw [hfind] at hhighest
  constructor
  · rintro rfl
    refine ⟨hname, ?_⟩
    intro x hx hx' hne
    rw [hfamily] at hx'
    have hle := hhighest.2 x hx hx'
    have hne' : rank x ≠ rank name := fun heq => hne (eq_of_family?_of_rank hx' hfamily heq)
    omega
  · rintro ⟨hknown, hricher⟩
    by_contra hne
    have hlt := hricher name hname (hfamily.trans hevent.symm) hne
    have hle := hhighest.2 event hknown hevent
    omega

/-! ## Decisions -/

theorem accept_ofKnown_iff (known : List String) (event : String) :
    ((ofKnown known).accept event).1 = true ↔ family? event = none ∨
      (∀ x ∈ known, family? x ≠ family? event) ∨ Richest known event := by
  cases hevent : family? event with
  | none =>
    rw [accept_plain (family?_eq_none_iff.1 hevent)]
    simp
  | some f =>
    obtain ⟨hvariants, rfl⟩ := hasVariants_of_family? hevent
    simp only [ofKnown, accept, hvariants, ↓reduceIte, reduceCtorEq, false_or]
    cases hfind : Assoc.find? (base event) (known.foldl keepRicher []) with
    | none =>
      have hhighest := highest_find? known (base event)
      rw [hfind] at hhighest
      exact iff_of_true rfl (.inl hhighest)
    | some name =>
      obtain ⟨hname, hfamily⟩ := known_of_find? hfind
      have hknown : ¬ ∀ x ∈ known, family? x ≠ some (base event) :=
        fun hall => hall name hname hfamily
      rw [beq_iff_eq, find?_eq_iff_richest hfind hevent, or_iff_right hknown]

/-- For each family that is known there is a richest name. -/
theorem exists_richest (hknown : ∃ x ∈ known, family? x = some f) :
    ∃ name, family? name = some f ∧ Richest known name := by
  obtain ⟨x, hx, hx'⟩ := hknown
  cases hfind : Assoc.find? f (known.foldl keepRicher []) with
  | none =>
    have hhighest := highest_find? known f
    rw [hfind] at hhighest
    exact absurd hx' (hhighest x hx)
  | some name =>
    have hfamily := (known_of_find? hfind).2
    exact ⟨name, hfamily, (find?_eq_iff_richest hfind hfamily).1 rfl⟩

theorem Richest.unique (h : Richest known event) (h' : Richest known name)
    (hfamily : family? name = family? event) : name = event := by
  by_contra hne
  have hlt := h.2 name h'.1 hfamily hne
  have hgt := h'.2 event h.1 hfamily.symm (Ne.symm hne)
  omega

/-- Where the known events decide, an event is accepted just if it is no variant, or none of its
family is known, or it is the richest known one. So the decisions are the same at all times and
in whatever order and how often the events are listed, and of a family that is known one name is
accepted. -/
theorem richest_known_accepted (known : List String) (inputs : List Input) :
    let d := (ofKnown known).takeAll inputs
    (∀ event, (d.accept event).1 = true ↔ family? event = none ∨
      (∀ x ∈ known, family? x ≠ family? event) ∨ Richest known event) ∧
    (∀ later event, ((d.takeAll later).accept event).1 = (d.accept event).1) ∧
    (∀ others, (∀ x, x ∈ others ↔ x ∈ known) → ∀ event,
      (((ofKnown others).takeAll inputs).accept event).1 = (d.accept event).1) ∧
    ∀ f ∈ families, (∃ x ∈ known, family? x = some f) →
      ∃! name, family? name = some f ∧ (d.accept name).1 = true := by
  intro d
  have hd : d = ofKnown known := takeAll_ofKnown known inputs
  rw [hd]
  refine ⟨accept_ofKnown_iff known, ?_, ?_, ?_⟩
  · intro later event
    rw [takeAll_ofKnown]
  · intro others hsame event
    rw [takeAll_ofKnown, Bool.eq_iff_iff, accept_ofKnown_iff, accept_ofKnown_iff]
    simp only [Richest, hsame]
  · intro f _ hknown
    obtain ⟨name, hname, hrichest⟩ := exists_richest hknown
    refine ⟨name, ⟨hname, (accept_ofKnown_iff known name).2 (.inr (.inr hrichest))⟩, ?_⟩
    rintro other ⟨hother, haccepted⟩
    obtain ⟨x, hx, hx'⟩ := hknown
    rcases (accept_ofKnown_iff known other).1 haccepted with hplain | hunknown | hother'
    · rw [hother] at hplain
      cases hplain
    · exact absurd (hx'.trans hother.symm) (hunknown x hx)
    · exact hrichest.unique hother' (hother.trans hname.symm)

end Deduplicator

end SessionRecorder

import SessionRecorder.Proofs.KnownVariants
import SessionRecorder.Proofs.Variants

/-!
What marks decide, told by the names of a cycle. A mark is set by what is accepted alone, yet it is
the highest rank of all names of its family that came in the cycle, for a name that is suppressed
is no richer than the mark. So the names of other families have no part in a decision. Main
statement: `marks_decide`.
-/

namespace SessionRecorder

namespace Deduplicator

open Catalog

variable {d : Deduplicator} {f event : String}

/-! ## One event -/

theorem accept_highWaterMark (seen : List (String × Nat)) (hevent : family? event = some f) :
    (highWaterMark seen).accept event =
      if ∀ high, Assoc.find? f seen = some high → high < rank event
      then (true, .highWaterMark (Assoc.insert f (rank event) seen))
      else (false, .highWaterMark seen) := by
  obtain ⟨hvariants, rfl⟩ := hasVariants_of_family? hevent
  simp only [accept, hvariants, ↓reduceIte]
  split
  · rename_i high hfind
    by_cases hrank : rank event ≤ high
    · simp [hfind, hrank]
    · simp [hfind, hrank, Nat.lt_of_not_le hrank]
  · rename_i hfind
    simp [hfind]

/-- An event of a family is accepted just if it is above the mark. -/
theorem accept_iff_above_mark (hmarks : d.usesMarks = true) (hevent : family? event = some f) :
    (d.accept event).1 = true ↔ ∀ high, d.mark? f = some high → high < rank event := by
  cases d with
  | precomputed best => cases hmarks
  | highWaterMark seen =>
    rw [accept_highWaterMark seen hevent, mark?]
    split
    · rename_i habove
      exact iff_of_true rfl habove
    · rename_i hbelow
      exact iff_of_false Bool.false_ne_true hbelow

/-- An event that is above the mark of its family sets it anew, and no other one does. -/
theorem mark?_accept_eq (hmarks : d.usesMarks = true) (event f : String) :
    (d.accept event).2.mark? f =
      if family? event = some f ∧ ∀ high, d.mark? f = some high → high < rank event
      then some (rank event) else d.mark? f := by
  cases d with
  | precomputed best => cases hmarks
  | highWaterMark seen =>
    cases hevent : family? event with
    | none =>
      rw [accept_plain (family?_eq_none_iff.1 hevent)]
      simp
    | some g =>
      rw [accept_highWaterMark seen hevent]
      by_cases habove : ∀ high, Assoc.find? g seen = some high → high < rank event
      · rw [if_pos habove]
        by_cases hg : g = f
        · subst hg
          rw [if_pos ⟨rfl, habove⟩]
          exact Assoc.find?_insert_self ..
        · rw [if_neg fun h => hg (Option.some.inj h.1)]
          exact Assoc.find?_insert_of_ne hg ..
      · have hnot : ¬ (some g = some f ∧
            ∀ high, (highWaterMark seen).mark? f = some high → high < rank event) := by
          rintro ⟨⟨⟩, h⟩
          exact habove h
        rw [if_neg habove, if_neg hnot]

/-! ## The cycle -/

/-- The names that have come since the cycle began. -/
def cycle (inputs : List Input) : List String :=
  inputs.foldl (fun names input => match input with
    | .event name => names ++ [name]
    | .cycleEnd => []) []

theorem cycle_event (inputs : List Input) (name : String) :
    cycle (inputs ++ [.event name]) = cycle inputs ++ [name] := by
  rw [cycle, List.foldl_append]
  rfl

theorem cycle_cycleEnd (inputs : List Input) : cycle (inputs ++ [.cycleEnd]) = [] := by
  rw [cycle, List.foldl_append]
  rfl

theorem takeAll_append (d : Deduplicator) (inputs more : List Input) :
    d.takeAll (inputs ++ more) = (d.takeAll inputs).takeAll more := List.foldl_append

/-- The deduplicator that marks what it accepts, after some inputs. -/
def marked (inputs : List Input) : Deduplicator := (highWaterMark []).takeAll inputs

theorem marked_event (inputs : List Input) (name : String) :
    marked (inputs ++ [.event name]) = ((marked inputs).accept name).2 :=
  takeAll_append _ inputs [.event name]

theorem marked_cycleEnd (inputs : List Input) :
    marked (inputs ++ [.cycleEnd]) = (marked inputs).reset :=
  takeAll_append _ inputs [.cycleEnd]

theorem usesMarks_marked (inputs : List Input) : (marked inputs).usesMarks = true := by
  induction inputs using List.reverseRecOn with
  | nil => rfl
  | append_singleton inputs input ih =>
    cases input with
    | event name => rw [marked_event, usesMarks_accept, ih]
    | cycleEnd => rw [marked_cycleEnd, usesMarks_reset, ih]

/-- The mark of a family is the highest of all its ranks in the cycle. -/
theorem highest_mark? (inputs : List Input) (f : String) :
    Highest (cycle inputs) f ((marked inputs).mark? f) := by
  induction inputs using List.reverseRecOn with
  | nil => exact highest_nil f
  | append_singleton inputs input ih =>
    cases input with
    | event name =>
      rw [cycle_event, marked_event, mark?_accept_eq (usesMarks_marked inputs)]
      exact ih.append name
    | cycleEnd =>
      rw [cycle_cycleEnd, marked_cycleEnd, mark?_reset]
      exact highest_nil f

theorem accept_marked_iff (inputs : List Input) (event : String) :
    ((marked inputs).accept event).1 = true ↔ family? event = none ∨
      ∀ x ∈ cycle inputs, family? x = family? event → rank x < rank event := by
  cases hevent : family? event with
  | none =>
    rw [accept_plain (family?_eq_none_iff.1 hevent)]
    simp
  | some f =>
    rw [accept_iff_above_mark (usesMarks_marked inputs) hevent,
      (highest_mark? inputs f).below_iff, or_iff_right (Option.some_ne_none f)]

/-! ## Consequences -/

/-- Those of some names of one cycle that are accepted. -/
def accepted (d : Deduplicator) : List String → List String
  | [] => []
  | name :: rest =>
    let (kept, next) := d.accept name
    if kept then name :: next.accepted rest else next.accepted rest

/-- What is accepted later in a cycle is above all of its family that came before. -/
theorem rank_lt_of_mem_accepted {inputs : List Input} {names : List String} {x y : String}
    (hx : x ∈ cycle inputs) (hy : y ∈ (marked inputs).accepted names)
    (hfamily : family? x = family? y) (hvariant : family? y ≠ none) : rank x < rank y := by
  induction names generalizing inputs with
  | nil => cases hy
  | cons name rest ih =>
    have hlater : y ∈ (marked (inputs ++ [.event name])).accepted rest → rank x < rank y := by
      apply ih
      rw [cycle_event]
      exact List.mem_append_left _ hx
    rw [marked_event] at hlater
    unfold accepted at hy
    cases hname : ((marked inputs).accept name).1 with
    | false =>
      simp only [hname, Bool.false_eq_true, ↓reduceIte] at hy
      exact hlater hy
    | true =>
      simp only [hname, ↓reduceIte, List.mem_cons] at hy
      rcases hy with rfl | hy
      · have habove := ((accept_marked_iff inputs y).1 hname).resolve_left hvariant
        exact habove x hx hfamily
      · exact hlater hy

/-- Of one family ever richer names are accepted in a cycle. -/
theorem accepted_ascending (inputs : List Input) (names : List String) (f : String) :
    ((marked inputs).accepted names).Pairwise fun x y =>
      family? x = some f → family? y = some f → rank x < rank y := by
  induction names generalizing inputs with
  | nil => exact List.Pairwise.nil
  | cons name rest ih =>
    have hrest := ih (inputs ++ [.event name])
    rw [marked_event] at hrest
    unfold accepted
    cases hname : ((marked inputs).accept name).1 with
    | false =>
      simp only [hname, Bool.false_eq_true, ↓reduceIte]
      exact hrest
    | true =>
      simp only [hname, ↓reduceIte]
      refine List.Pairwise.cons ?_ hrest
      intro y hy hx' hy'
      rw [← marked_event] at hy
      apply rank_lt_of_mem_accepted _ hy (hx'.trans hy'.symm)
      · rw [hy']
        exact Option.some_ne_none f
      · rw [cycle_event]
        simp

/-- Whether an input is an event of a family, or the end of a cycle. -/
def concerns (f : String) : Input → Bool
  | .event name => family? name = some f
  | .cycleEnd => true

/-- Where all that concerns a family is kept, its names in the cycle are the same. -/
theorem cycle_filter {f : String} {keep : Input → Bool}
    (hkeep : ∀ input, concerns f input = true → keep input = true) (inputs : List Input) :
    (cycle (inputs.filter keep)).filter (family? · = some f) =
      (cycle inputs).filter (family? · = some f) := by
  induction inputs using List.reverseRecOn with
  | nil => rfl
  | append_singleton inputs input ih =>
    rw [List.filter_append]
    cases input with
    | cycleEnd =>
      have hkept : [Input.cycleEnd].filter keep = [.cycleEnd] := by simp [hkeep .cycleEnd rfl]
      rw [hkept, cycle_cycleEnd, cycle_cycleEnd]
    | event name =>
      rw [cycle_event, List.filter_append, ← ih]
      cases hname : keep (.event name) with
      | true =>
        have hkept : [Input.event name].filter keep = [.event name] := by simp [hname]
        rw [hkept, cycle_event, List.filter_append]
      | false =>
        have hdropped : [Input.event name].filter keep = [] := by simp [hname]
        have hother : family? name ≠ some f := by
          intro h
          have hkept := hkeep (.event name) (by simp [concerns, h])
          rw [hname] at hkept
          cases hkept
        rw [hdropped]
        simp [hother]

/-- Marks let an event pass just if it is no variant, or is richer than every one of its family that
has come in the cycle. So in a cycle ever richer ones of a family are accepted, and without events
of other families, whichever of them are left out, every decision about the family is the same. -/
theorem marks_decide (inputs : List Input) :
    (∀ event, ((marked inputs).accept event).1 = true ↔ family? event = none ∨
      ∀ x ∈ cycle inputs, family? x = family? event → rank x < rank event) ∧
    (∀ names f, ((marked inputs).accepted names).Pairwise fun x y =>
      family? x = some f → family? y = some f → rank x < rank y) ∧
    ∀ f keep, (∀ input, concerns f input = true → keep input = true) →
      ∀ event, family? event = some f →
        ((marked (inputs.filter keep)).accept event).1 = ((marked inputs).accept event).1 := by
  refine ⟨accept_marked_iff inputs, accepted_ascending inputs, ?_⟩
  intro f keep hkeep event hevent
  have hnames (x : String) (hx : family? x = some f) :
      x ∈ cycle (inputs.filter keep) ↔ x ∈ cycle inputs := by
    have hfilter := congrArg (x ∈ ·) (cycle_filter hkeep inputs)
    simpa [hx] using hfilter
  rw [Bool.eq_iff_iff, accept_marked_iff, accept_marked_iff, hevent]
  refine or_congr_right (forall_congr' fun x => ?_)
  constructor
  · intro h hx hx'
    exact h ((hnames x hx').2 hx) hx'
  · intro h hx hx'
    exact h ((hnames x hx').1 hx) hx'

end Deduplicator

end SessionRecorder

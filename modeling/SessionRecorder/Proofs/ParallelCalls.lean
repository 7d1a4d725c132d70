import SessionRecorder.Proofs.ToolCalls

/-!
Tool calls that run at the same time. What the signals of a turn say about the calls with one id
can be read off from the starts and finishes with that id alone (`filter_applyAll`), so finishes
with different ids may come in any order. Main statement: `parallel_calls_commute`.
-/

namespace SessionRecorder

section

variable {α : Type} {p q : α → Bool} {f : α → α}

theorem filter_updateFirst_of_not (hp : ∀ x, p x = true → q x = false ∧ q (f x) = false)
    (xs : List α) : (updateFirst p f xs).filter q = xs.filter q := by
  induction xs with
  | nil => rfl
  | cons x rest ih =>
    cases hx : p x with
    | true => simp [updateFirst, hx, hp x hx]
    | false => simp [updateFirst, hx, List.filter_cons, ih]

theorem filter_updateFirst (hp : ∀ x, p x = true → q x = true ∧ q (f x) = true)
    (xs : List α) : (updateFirst p f xs).filter q = updateFirst p f (xs.filter q) := by
  induction xs with
  | nil => rfl
  | cons x rest ih =>
    cases hx : p x with
    | true => simp [updateFirst, hx, hp x hx]
    | false => cases hq : q x <;> simp [updateFirst, hx, hq, ih]

/-- An update of a member that a filter leaves out does not show. -/
theorem filter_updateLast_of_not (hp : ∀ x, p x = true → q x = false ∧ q (f x) = false)
    (xs : List α) : (updateLast p f xs).filter q = xs.filter q := by
  rw [updateLast, List.filter_reverse, filter_updateFirst_of_not hp, List.filter_reverse,
    List.reverse_reverse]

/-- An update of a member that a filter keeps is an update of what it keeps. -/
theorem filter_updateLast (hp : ∀ x, p x = true → q x = true ∧ q (f x) = true)
    (xs : List α) : (updateLast p f xs).filter q = updateLast p f (xs.filter q) := by
  rw [updateLast, List.filter_reverse, filter_updateFirst hp, List.filter_reverse, updateLast]

/-- Where nothing that satisfies `p` is behind anything that satisfies `q`, the two kinds stand
one behind the other. -/
theorem filter_or_of_pairwise {xs : List α}
    (h : xs.Pairwise fun x y => q x = true → p y = false) (hpq : ∀ x, q x = true → p x = false) :
    xs.filter (fun x => p x || q x) = xs.filter p ++ xs.filter q := by
  induction xs with
  | nil => rfl
  | cons x rest ih =>
    rw [List.pairwise_cons] at h
    have hrest := ih h.2
    cases hq : q x with
    | true =>
      have hnone : rest.filter p = [] :=
        List.filter_eq_nil_iff.2 fun y hy => by simp [h.1 y hy hq]
      rw [hnone, List.nil_append] at hrest
      simp [hq, hpq x hq, hnone, hrest]
    | false => cases hp : p x <;> simp [hp, hq, hrest]

end

namespace ToolCall

/-- The calls are determined by what they are at their start and, for each id, those with it. -/
theorem eq_of_opened_of_filter {xs ys : List ToolCall}
    (hopened : xs.map opened = ys.map opened)
    (hfilter : ∀ id, xs.filter (·.id == id) = ys.filter (·.id == id)) : xs = ys := by
  induction xs generalizing ys with
  | nil => exact (List.map_eq_nil_iff.1 hopened.symm).symm
  | cons t rest ih =>
    cases ys with
    | nil => cases hopened
    | cons u rest' =>
      obtain ⟨hhead, htail⟩ := List.cons.inj hopened
      have hid : t.id = u.id := show t.opened.id = u.opened.id by rw [hhead]
      have hsame := hfilter t.id
      rw [List.filter_cons_of_pos (by simp), List.filter_cons_of_pos (by simp [hid])] at hsame
      obtain rfl : t = u := (List.cons.inj hsame).1
      refine congrArg (t :: ·) (ih htail fun id => ?_)
      have hwith := hfilter id
      cases ht : t.id == id with
      | true =>
        simp only [List.filter_cons, ht, ↓reduceIte] at hwith
        exact (List.cons.inj hwith).2
      | false => simpa only [List.filter_cons, ht, Bool.false_eq_true, ↓reduceIte] using hwith

end ToolCall

namespace Signal

/-- Whether a signal starts a call with an id. -/
def starts (id : Option String) : Signal → Bool
  | toolStarted _ _ i => i == id
  | _ => false

/-- Whether a signal finishes a call with an id. -/
def finishes (id : Option String) : Signal → Bool
  | toolFinished _ i _ _ => i == id
  | _ => false

/-- Whether a signal is about the calls with an id. -/
def concerns (id : Option String) (s : Signal) : Bool := s.starts id || s.finishes id

/-- The calls of a turn after signals. -/
def trackAll (ss : List Signal) (tools : List ToolCall) : List ToolCall :=
  ss.foldl (fun tools s => s.track tools) tools

/-- A finish with an id, or another signal, does to the calls with an id what it does to all
calls, or does nothing to them. -/
theorem filter_track {s : Signal} (hs : s.finishes none = false) (id : Option String)
    (tools : List ToolCall) :
    (s.track tools).filter (·.id == id) =
      if s.concerns id then s.track (tools.filter (·.id == id))
      else tools.filter (·.id == id) := by
  cases s with
  | toolStarted name input i =>
    cases hi : i == id <;> simp [track, concerns, starts, finishes, hi, List.filter_append]
  | toolFinished name i result error =>
    obtain ⟨i, rfl⟩ : ∃ j, i = some j := by
      cases i with
      | none => cases hs
      | some j => exact ⟨j, rfl⟩
    have hid {t : ToolCall} (h : Accumulator.awaits name (some i) t = true) : t.id = some i :=
      (Accumulator.awaits_iff.1 h).2
    cases hi : some i == id with
    | true =>
      simp only [track, concerns, starts, finishes, hi, Bool.or_true, ↓reduceIte]
      exact filter_updateLast (fun t ht => by simp [hid ht, hi]) tools
    | false =>
      simp only [track, concerns, starts, finishes, hi, Bool.or_false, Bool.false_eq_true,
        ↓reduceIte]
      exact filter_updateLast_of_not (fun t ht => by simp [hid ht, hi]) tools
  | _ => simp [track, concerns, starts, finishes]

/-- The calls with an id are those that the signals about that id leave. -/
theorem filter_trackAll {ss : List Signal} (hss : ∀ s ∈ ss, s.finishes none = false)
    (id : Option String) (tools : List ToolCall) :
    (trackAll ss tools).filter (·.id == id) =
      trackAll (ss.filter (concerns id)) (tools.filter (·.id == id)) := by
  induction ss generalizing tools with
  | nil => rfl
  | cons s rest ih =>
    have hrest := ih (fun s hs => hss s (by simp [hs])) (s.track tools)
    rw [filter_track (hss s (by simp))] at hrest
    refine hrest.trans ?_
    cases h : s.concerns id <;> simp [trackAll, h]

/-- The starts with an id, from all calls that are started. -/
theorem filter_starts (id : Option String) (ss : List Signal) :
    ss.filter (starts id) = ((ss.filterMap started?).filter (·.id == id)).map fun t =>
      toolStarted t.name t.input t.id := by
  induction ss with
  | nil => rfl
  | cons s rest ih =>
    cases s with
    | toolStarted name input i => cases hi : i == id <;> simp [starts, started?, hi, ih]
    | _ => exact ih

/-- Whether two lists of signals have the same calls: starts in one order, and the finishes with
each id in one order. -/
structure SameCalls (ss ss' : List Signal) : Prop where
  starts : ss.filterMap started? = ss'.filterMap started?
  finishes (id : String) : ss.filter (finishes (some id)) = ss'.filter (finishes (some id))

/-- Whether every finish has an id, and comes behind the start with that id. -/
structure Ordered (ss : List Signal) : Prop where
  identified : ∀ s ∈ ss, s.finishes none = false
  behind : ss.Pairwise fun earlier later =>
    ∀ id, earlier.finishes (some id) = true → later.starts (some id) = false

/-- In order, the signals about an id are the start and then the finishes. -/
theorem Ordered.filter_concerns {ss : List Signal} (h : Ordered ss) (id : Option String) :
    ss.filter (concerns id) = ss.filter (starts id) ++ ss.filter (finishes id) := by
  refine filter_or_of_pairwise ?_ fun s hs => ?_
  · cases id with
    | none =>
      refine List.pairwise_of_forall_mem_list fun s hs t _ hnone => ?_
      rw [h.identified s hs] at hnone
      cases hnone
    | some id => exact h.behind.imp fun hst => hst id
  · cases s <;> first | rfl | cases hs

end Signal

namespace Accumulator

theorem tools_applyAll (signals : List (Nat × Signal)) (a : Accumulator) :
    (a.applyAll signals).current.tools =
      Signal.trackAll (signals.map Prod.snd) a.current.tools := by
  induction signals generalizing a with
  | nil => rfl
  | cons s rest ih =>
    have hrest := ih (a.apply s.1 s.2)
    rw [tools_apply] at hrest
    exact hrest

/-- Signals that start the same calls, and are the same for each id, leave the same calls. -/
theorem tools_eq_of_filter {a : Accumulator} {signals signals' : List (Nat × Signal)}
    (hstarts : signals.filterMap (·.2.started?) = signals'.filterMap (·.2.started?))
    (hid : ∀ s ∈ signals.map Prod.snd, s.finishes none = false)
    (hid' : ∀ s ∈ signals'.map Prod.snd, s.finishes none = false)
    (h : ∀ id, (signals.map Prod.snd).filter (Signal.concerns id) =
      (signals'.map Prod.snd).filter (Signal.concerns id)) :
    (a.applyAll signals).current.tools = (a.applyAll signals').current.tools := by
  refine ToolCall.eq_of_opened_of_filter ?_ fun id => ?_
  · rw [map_opened_applyAll, map_opened_applyAll, hstarts]
  · rw [tools_applyAll, tools_applyAll, Signal.filter_trackAll hid, Signal.filter_trackAll hid',
      h id]

end Accumulator

/-- Whatever comes between them, and at whatever times: the same calls, with the finishes behind
the starts, leave the same records. Calls that share an id may do so if all of them start before
one finishes. -/
theorem parallel_calls_commute (a : Accumulator) (signals signals' : List (Nat × Signal))
    (hsame : Signal.SameCalls (signals.map Prod.snd) (signals'.map Prod.snd))
    (h : Signal.Ordered (signals.map Prod.snd))
    (h' : Signal.Ordered (signals'.map Prod.snd)) :
    (a.applyAll signals).current.tools = (a.applyAll signals').current.tools := by
  refine Accumulator.tools_eq_of_filter ?_ h.identified h'.identified fun id => ?_
  · have hstarts := hsame.starts
    rwa [List.filterMap_map, List.filterMap_map] at hstarts
  · have hfinishes : (signals.map Prod.snd).filter (Signal.finishes id) =
        (signals'.map Prod.snd).filter (Signal.finishes id) := by
      cases id with
      | none =>
        rw [List.filter_eq_nil_iff.2 fun s hs => by simp [h.identified s hs],
          List.filter_eq_nil_iff.2 fun s hs => by simp [h'.identified s hs]]
      | some id => exact hsame.finishes id
    rw [h.filter_concerns, h'.filter_concerns, Signal.filter_starts, Signal.filter_starts,
      hsame.starts, hfinishes]

namespace Sample

/-- Two calls that run at the same time; the first ends last. -/
def nested : List (Nat × Signal) := [
  (1, .toolStarted "read" "x" (some "a")), (2, .toolStarted "read" "y" (some "b")),
  (3, .toolFinished "read" (some "b") (some "Y") none), (4, .textBlock "reading"),
  (5, .toolFinished "read" (some "a") (some "X") none)]

/-- The same calls, one after the other. -/
def sequential : List (Nat × Signal) := [
  (1, .requestSent), (2, .toolStarted "read" "x" (some "a")),
  (3, .toolFinished "read" (some "a") (some "X") none), (4, .promptSubmitted "go on"),
  (5, .toolStarted "read" "y" (some "b")), (6, .toolFinished "read" (some "b") (some "Y") none)]

end Sample

theorem nested_calls_commute :
    ((Accumulator.ofAgent none).applyAll Sample.nested).current.tools =
      ((Accumulator.ofAgent none).applyAll Sample.sequential).current.tools := by
  refine parallel_calls_commute _ _ _ ⟨rfl, fun id => ?_⟩ ⟨by decide, ?_⟩ ⟨by decide, ?_⟩
  · by_cases ha : id = "a"
    · subst ha
      rfl
    · by_cases hb : id = "b"
      · subst hb
        rfl
      · simp [Sample.nested, Sample.sequential, Signal.finishes, Ne.symm ha, Ne.symm hb]
  · simp [Sample.nested, Signal.starts, Signal.finishes]
  · simp [Sample.sequential, Signal.starts, Signal.finishes]

end SessionRecorder

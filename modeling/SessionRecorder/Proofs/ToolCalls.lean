import Mathlib.Data.List.Induction
import SessionRecorder.Turn.Accumulator

/-!
The tool calls of the turn in progress, as a ledger of the signals since the last flush: one
record for each start, completed by the one finish that was matched to it and by nothing else.
Main statement: `tool_calls_ledger`.
-/

namespace SessionRecorder

/-! ## Updates of one member -/

section

variable {α : Type} {p : α → Bool} {f : α → α}

theorem updateFirst_of_none {xs : List α} (h : ∀ x ∈ xs, p x = false) :
    updateFirst p f xs = xs := by
  induction xs with
  | nil => rfl
  | cons x rest ih =>
    have hx : p x = false := h x (by simp)
    have hrest := ih fun y hy => h y (by simp [hy])
    simp [updateFirst, hx, hrest]

theorem updateFirst_append {x : α} {front : List α} (hfront : ∀ y ∈ front, p y = false)
    (hx : p x = true) (back : List α) :
    updateFirst p f (front ++ x :: back) = front ++ f x :: back := by
  induction front with
  | nil => simp [updateFirst, hx]
  | cons y rest ih =>
    have hy : p y = false := hfront y (by simp)
    have hrest := ih fun z hz => hfront z (by simp [hz])
    simp [updateFirst, hy, hrest]

theorem updateLast_of_none {xs : List α} (h : ∀ x ∈ xs, p x = false) :
    updateLast p f xs = xs := by
  rw [updateLast, updateFirst_of_none (by simpa using h), List.reverse_reverse]

/-- Where the `n`-th member is the last that satisfies `p`, it is the one updated. -/
theorem updateLast_of_last {xs : List α} {n : Nat} {x : α} (hn : xs[n]? = some x)
    (hx : p x = true) (hlater : ∀ m y, n < m → xs[m]? = some y → p y = false) :
    updateLast p f xs = xs.set n (f x) := by
  obtain ⟨hlt, hget⟩ := List.getElem?_eq_some_iff.1 hn
  have hsplit : xs = xs.take n ++ x :: xs.drop (n + 1) := by
    rw [← hget, ← List.drop_eq_getElem_cons hlt, List.take_append_drop]
  have hback : ∀ y ∈ (xs.drop (n + 1)).reverse, p y = false := by
    intro y hy
    obtain ⟨i, hi⟩ := List.mem_iff_getElem?.1 (List.mem_reverse.1 hy)
    rw [List.getElem?_drop] at hi
    exact hlater _ y (by omega) hi
  have hreverse : xs.reverse = (xs.drop (n + 1)).reverse ++ x :: (xs.take n).reverse := by
    conv_lhs => rw [hsplit]
    simp
  rw [updateLast, hreverse, updateFirst_append hback hx, List.set_eq_take_append_cons_drop,
    if_pos hlt]
  simp

/-- Where a member satisfies `p`, there is a last that does. -/
theorem exists_last {xs : List α} (h : ∃ x ∈ xs, p x = true) :
    ∃ (n : Nat) (x : α), xs[n]? = some x ∧ p x = true ∧
      ∀ m y, n < m → xs[m]? = some y → p y = false := by
  induction xs using List.reverseRecOn with
  | nil => simp at h
  | append_singleton rest y ih =>
    cases hy : p y with
    | true =>
      refine ⟨rest.length, y, by simp, hy, fun m z hm hz => ?_⟩
      rw [List.getElem?_eq_none (by simp; omega)] at hz
      cases hz
    | false =>
      have hrest : ∃ x ∈ rest, p x = true := by
        obtain ⟨x, hx, hp⟩ := h
        rcases List.mem_append.1 hx with hx | hx
        · exact ⟨x, hx, hp⟩
        · rw [List.mem_singleton.1 hx, hy] at hp
          cases hp
      obtain ⟨n, x, hn, hx, hlater⟩ := ih hrest
      have hlt := (List.getElem?_eq_some_iff.1 hn).1
      refine ⟨n, x, by rwa [List.getElem?_append_left hlt], hx, fun m z hm hz => ?_⟩
      by_cases hmlt : m < rest.length
      · rw [List.getElem?_append_left hmlt] at hz
        exact hlater m z hm hz
      · rw [List.getElem?_append_right (by omega)] at hz
        have hzy := List.mem_of_getElem? hz
        rw [List.mem_singleton.1 hzy]
        exact hy

end

/-! ## What a signal does to the calls -/

namespace ToolCall

/-- The call as it was when it had started. -/
def opened (t : ToolCall) : ToolCall := { name := t.name, input := t.input, id := t.id }

/-- Whether a finish is about the call: it has the call's id or, without an id, its tool. -/
def Fits (name : String) (id : Option String) (t : ToolCall) : Prop :=
  match id with
  | some id => t.id = some id
  | none => t.name = name

end ToolCall

namespace Signal

/-- The call that a signal starts, if it starts one. -/
def started? : Signal → Option ToolCall
  | toolStarted name input id => some { name, input, id }
  | _ => none

/-- The calls of a turn after a signal. -/
def track (s : Signal) (tools : List ToolCall) : List ToolCall :=
  match s with
  | toolStarted name input id => tools ++ [{ name, input, id }]
  | toolFinished name id result error => Accumulator.finishCall name id result error tools
  | _ => tools

end Signal

namespace Accumulator

variable {a : Accumulator} {tools : List ToolCall} {name : String}
  {id result error : Option String} {n : Nat}

/-- The state after signals at their times. -/
def applyAll (signals : List (Nat × Signal)) (a : Accumulator) : Accumulator :=
  signals.foldl (fun a s => a.apply s.1 s.2) a

theorem tools_apply (now : Nat) (s : Signal) (a : Accumulator) :
    (a.apply now s).current.tools = s.track a.current.tools := by
  cases s with
  | responseReceived usage => cases usage <;> rfl
  | _ => rfl

theorem applyAll_append (ss later : List (Nat × Signal)) (a : Accumulator) :
    a.applyAll (ss ++ later) = (a.applyAll ss).applyAll later := List.foldl_append

theorem awaits_iff {t : ToolCall} :
    awaits name id t = true ↔ t.done = false ∧ t.Fits name id := by
  cases id <;> simp [awaits, ToolCall.Fits]

/-- The `n`-th call is the latest open one that a finish is about. -/
structure Completes (name : String) (id : Option String) (tools : List ToolCall) (n : Nat) :
    Prop where
  fits : ∃ t, tools[n]? = some t ∧ t.done = false ∧ t.Fits name id
  latest : ∀ m t, n < m → tools[m]? = some t → t.done = false → ¬ t.Fits name id

theorem Completes.unique {m : Nat} (hn : Completes name id tools n)
    (hm : Completes name id tools m) : n = m := by
  obtain ⟨t, ht, htopen, htfits⟩ := hn.fits
  obtain ⟨u, hu, huopen, hufits⟩ := hm.fits
  rcases Nat.lt_trichotomy n m with h | h | h
  · exact absurd hufits (hn.latest m u h hu huopen)
  · exact h
  · exact absurd htfits (hm.latest n t h ht htopen)

theorem exists_completes (h : ∃ t ∈ tools, t.done = false ∧ t.Fits name id) :
    ∃ n, Completes name id tools n := by
  obtain ⟨t, ht, hawaits⟩ := h
  obtain ⟨n, u, hn, hu, hlater⟩ := exists_last ⟨t, ht, awaits_iff.2 hawaits⟩
  refine ⟨n, ⟨u, hn, awaits_iff.1 hu⟩, fun m v hm hv hopen hfits => ?_⟩
  have hnot := hlater m v hm hv
  rw [awaits_iff.2 ⟨hopen, hfits⟩] at hnot
  cases hnot

theorem finishCall_of_completes {t : ToolCall} (h : Completes name id tools n)
    (ht : tools[n]? = some t) :
    finishCall name id result error tools =
      tools.set n { t with result, error, done := true } := by
  obtain ⟨u, hu, hopen⟩ := h.fits
  obtain rfl : t = u := Option.some.inj (ht.symm.trans hu)
  refine updateLast_of_last ht (awaits_iff.2 hopen) fun m v hm hv => ?_
  rw [Bool.eq_false_iff]
  intro hawaits
  exact h.latest m v hm hv (awaits_iff.1 hawaits).1 (awaits_iff.1 hawaits).2

theorem finishCall_of_none (h : ∀ t ∈ tools, t.done = false → ¬ t.Fits name id) :
    finishCall name id result error tools = tools := by
  refine updateLast_of_none fun t ht => ?_
  rw [Bool.eq_false_iff]
  intro hawaits
  exact h t ht (awaits_iff.1 hawaits).1 (awaits_iff.1 hawaits).2

/-- A finish completes the latest open call that it is about, or leaves the calls as they are. -/
theorem finishCall_cases (name : String) (id result error : Option String)
    (tools : List ToolCall) :
    (∃ n t, Completes name id tools n ∧ tools[n]? = some t ∧
      finishCall name id result error tools =
        tools.set n { t with result, error, done := true }) ∨
    (∀ t ∈ tools, t.done = false → ¬ t.Fits name id) ∧
      finishCall name id result error tools = tools := by
  by_cases h : ∃ t ∈ tools, t.done = false ∧ t.Fits name id
  · obtain ⟨n, hn⟩ := exists_completes h
    obtain ⟨t, ht, _⟩ := hn.fits
    exact .inl ⟨n, t, hn, ht, finishCall_of_completes hn ht⟩
  · have hnone : ∀ t ∈ tools, t.done = false → ¬ t.Fits name id :=
      fun t ht hopen hfits => h ⟨t, ht, hopen, hfits⟩
    exact .inr ⟨hnone, finishCall_of_none hnone⟩

/-- The same of the state: where no call is completed, nothing at all changes. -/
theorem apply_toolFinished (now : Nat) (name : String) (id result error : Option String)
    (a : Accumulator) :
    (∃ n t, Completes name id a.current.tools n ∧ a.current.tools[n]? = some t ∧
      (a.apply now (.toolFinished name id result error)).current.tools =
        a.current.tools.set n { t with result, error, done := true }) ∨
    (∀ t ∈ a.current.tools, t.done = false → ¬ t.Fits name id) ∧
      a.apply now (.toolFinished name id result error) = a := by
  rcases finishCall_cases name id result error a.current.tools with hset | ⟨hnone, hsame⟩
  · exact .inl hset
  · refine .inr ⟨hnone, ?_⟩
    simp only [apply, hsame]

/-- Where a call stands after a signal: it is new, or was completed just now, or is as before. -/
theorem getElem?_track {s : Signal} {t : ToolCall} (h : (s.track tools)[n]? = some t) :
    (n = tools.length ∧ s.started? = some t) ∨
    (∃ name id result error u, s = .toolFinished name id result error ∧
      Completes name id tools n ∧ tools[n]? = some u ∧
      t = { u with result, error, done := true }) ∨
    (tools[n]? = some t ∧ ∀ name id result error,
      s = .toolFinished name id result error → ¬ Completes name id tools n) := by
  cases s with
  | toolStarted name input id =>
    simp only [Signal.track] at h
    rcases Nat.lt_trichotomy n tools.length with hlt | heq | hgt
    · rw [List.getElem?_append_left hlt] at h
      exact .inr (.inr ⟨h, by rintro _ _ _ _ ⟨⟩⟩)
    · subst heq
      rw [List.getElem?_concat_length] at h
      exact .inl ⟨rfl, h⟩
    · rw [List.getElem?_eq_none (by simp; omega)] at h
      cases h
  | toolFinished name id result error =>
    simp only [Signal.track] at h
    rcases finishCall_cases name id result error tools with ⟨m, u, hm, hu, hset⟩ | ⟨hnone, hsame⟩
    · rw [hset] at h
      by_cases hmn : m = n
      · subst hmn
        rw [List.getElem?_set_self (List.getElem?_eq_some_iff.1 hu).1] at h
        exact .inr (.inl ⟨name, id, result, error, u, rfl, hm, hu, (Option.some.inj h).symm⟩)
      · rw [List.getElem?_set_ne hmn] at h
        refine .inr (.inr ⟨h, fun _ _ _ _ heq hn => hmn ?_⟩)
        cases heq
        exact hm.unique hn
    · rw [hsame] at h
      refine .inr (.inr ⟨h, fun _ _ _ _ heq hn => ?_⟩)
      cases heq
      obtain ⟨u, hu, hdone, hfits⟩ := hn.fits
      exact hnone u (List.mem_of_getElem? hu) hdone hfits
  | _ => exact .inr (.inr ⟨h, by rintro _ _ _ _ ⟨⟩⟩)

/-- A signal changes no name, input or id; a start adds its own call. -/
theorem map_opened_track (s : Signal) (tools : List ToolCall) :
    (s.track tools).map ToolCall.opened =
      tools.map ToolCall.opened ++ s.started?.toList := by
  cases s with
  | toolStarted name input id => simp [Signal.track, Signal.started?, ToolCall.opened]
  | toolFinished name id result error =>
    simp only [Signal.track, Signal.started?, Option.toList_none, List.append_nil]
    rcases finishCall_cases name id result error tools with ⟨n, u, _, hu, hset⟩ | ⟨_, hsame⟩
    · obtain ⟨hlt, rfl⟩ := List.getElem?_eq_some_iff.1 hu
      rw [hset, List.map_set]
      have hlength : n < (tools.map ToolCall.opened).length := by simpa using hlt
      have hself : (tools.map ToolCall.opened).set n (tools.map ToolCall.opened)[n] = _ :=
        List.set_getElem_self hlength
      rwa [List.getElem_map] at hself
    · rw [hsame]
  | _ => simp [Signal.track, Signal.started?]

/-- A signal keeps every call in its place, and those that are done as they are. -/
theorem track_keeps (s : Signal) {t : ToolCall} (h : tools[n]? = some t) :
    ∃ u, (s.track tools)[n]? = some u ∧ u.opened = t.opened ∧ (t.done = true → u = t) := by
  have hopened : ((s.track tools)[n]?).map ToolCall.opened = some t.opened := by
    have hlt : n < (tools.map ToolCall.opened).length := by
      simpa using (List.getElem?_eq_some_iff.1 h).1
    rw [← List.getElem?_map, map_opened_track, List.getElem?_append_left hlt, List.getElem?_map,
      h, Option.map_some]
  obtain ⟨u, hu, hsame⟩ := Option.map_eq_some_iff.1 hopened
  refine ⟨u, hu, hsame, fun hdone => ?_⟩
  rcases getElem?_track hu with ⟨hlength, _⟩ | ⟨name, id, _, _, _, _, hcompletes, _⟩ | ⟨hold, _⟩
  · rw [List.getElem?_eq_none (by omega)] at h
    cases h
  · obtain ⟨v, hv, hopen, _⟩ := hcompletes.fits
    obtain rfl : t = v := Option.some.inj (h.symm.trans hv)
    rw [hdone] at hopen
    cases hopen
  · exact Option.some.inj (hold.symm.trans h)

/-! ## The signals since a flush -/

/-- The `k`-th signal is a finish with this outcome, and it completed the `n`-th call. -/
def Completed (a : Accumulator) (signals : List (Nat × Signal)) (n k : Nat)
    (result error : Option String) : Prop :=
  ∃ now name id, signals[k]? = some (now, .toolFinished name id result error) ∧
    Completes name id (a.applyAll (signals.take k)).current.tools n

theorem completed_concat {ss : List (Nat × Signal)} {s : Nat × Signal} {k : Nat} :
    a.Completed (ss ++ [s]) n k result error ↔ a.Completed ss n k result error ∨
      k = ss.length ∧ ∃ name id, s.2 = .toolFinished name id result error ∧
        Completes name id (a.applyAll ss).current.tools n := by
  obtain ⟨now, s⟩ := s
  unfold Completed
  rcases Nat.lt_trichotomy k ss.length with hlt | heq | hgt
  · have htake : (ss ++ [(now, s)]).take k = ss.take k := List.take_append_of_le_length (by omega)
    rw [List.getElem?_append_left hlt, htake]
    have hne : k ≠ ss.length := by omega
    simp [hne]
  · subst heq
    rw [List.getElem?_concat_length, List.take_left]
    simp
  · have hne : k ≠ ss.length := by omega
    rw [List.getElem?_eq_none (by simp; omega), List.getElem?_eq_none (by omega)]
    simp [hne]

/-- What the signals say about the `n`-th call: it is as it started, or one of them has
completed it. -/
structure Explained (a : Accumulator) (ss : List (Nat × Signal)) (n : Nat) (t : ToolCall) :
    Prop where
  pending : t.done = false → t = t.opened
  completed : t.done = true → ∃ k, a.Completed ss n k t.result t.error
  done {k : Nat} {result error : Option String} :
    a.Completed ss n k result error → t.done = true ∧ t.result = result ∧ t.error = error
  once {k l : Nat} {result error result' error' : Option String} :
    a.Completed ss n k result error → a.Completed ss n l result' error' → k = l

/-- No signal has completed a call that is not there yet. -/
theorem not_completed_of_length {ss : List (Nat × Signal)} {k : Nat}
    (h : (a.applyAll ss).current.tools.length ≤ n) : ¬ a.Completed ss n k result error := by
  induction ss using List.reverseRecOn with
  | nil => simp [Completed]
  | append_singleton ss s ih =>
    rw [applyAll_append] at h
    have hbefore : (a.applyAll ss).current.tools.length ≤ n := by
      have hlength := congrArg List.length (map_opened_track s.2 (a.applyAll ss).current.tools)
      rw [← tools_apply s.1] at hlength
      simp only [List.length_map, List.length_append] at hlength
      change ((a.applyAll ss).apply s.1 s.2).current.tools.length ≤ n at h
      omega
    rw [completed_concat]
    rintro (hold | ⟨_, name, id, _, hcompletes⟩)
    · exact ih hbefore hold
    · obtain ⟨t, ht, _⟩ := hcompletes.fits
      rw [List.getElem?_eq_none hbefore] at ht
      cases ht

theorem Explained.of_pending {ss : List (Nat × Signal)} {t : ToolCall} (h : t = t.opened)
    (hnot : ∀ k result error, ¬ a.Completed ss n k result error) : a.Explained ss n t where
  pending _ := h
  completed hdone := by rw [h] at hdone; cases hdone
  done hk := absurd hk (hnot _ _ _)
  once hk := absurd hk (hnot _ _ _)

/-- Every call that the signals leave is explained by them. -/
theorem explained (agent : Option String) (ss : List (Nat × Signal)) {t : ToolCall}
    (h : ((ofAgent agent).applyAll ss).current.tools[n]? = some t) :
    (ofAgent agent).Explained ss n t := by
  induction ss using List.reverseRecOn generalizing t with
  | nil => cases h
  | append_singleton ss s ih =>
    rw [applyAll_append] at h
    have htrack := (congrArg (·[n]?) (tools_apply s.1 s.2 _)).symm.trans h
    rcases getElem?_track htrack with ⟨hlength, hstarted⟩ |
      ⟨name, id, result, error, u, hs, hcompletes, hu, rfl⟩ | ⟨hold, hnot⟩
    · -- A call that starts now: what came before cannot have completed it.
      cases hs : s.2 with
      | toolStarted name input id =>
        rw [hs] at hstarted
        refine .of_pending (by rw [← Option.some.inj hstarted]; rfl) fun k result error hk => ?_
        rcases completed_concat.1 hk with hold | ⟨_, _, _, hfinish, _⟩
        · exact not_completed_of_length (by omega) hold
        · rw [hs] at hfinish
          cases hfinish
      | _ => rw [hs] at hstarted; cases hstarted
    · -- A call that is completed now: it was open, so nothing had completed it before.
      have hopen : u.done = false := by
        obtain ⟨v, hv, hopen, _⟩ := hcompletes.fits
        rwa [Option.some.inj (hu.symm.trans hv)]
      have hlast {k : Nat} {r e : Option String}
          (hk : (ofAgent agent).Completed (ss ++ [s]) n k r e) :
          k = ss.length ∧ r = result ∧ e = error := by
        rcases completed_concat.1 hk with hold | ⟨hlen, _, _, hfinish, _⟩
        · rw [((ih hu).done hold).1] at hopen
          cases hopen
        · rw [hs] at hfinish
          cases hfinish
          exact ⟨hlen, rfl, rfl⟩
      exact {
        pending := nofun
        completed := fun _ =>
          ⟨ss.length, completed_concat.2 (.inr ⟨rfl, name, id, hs, hcompletes⟩)⟩
        done := fun hk => ⟨rfl, (hlast hk).2.1.symm, (hlast hk).2.2.symm⟩
        once := fun hk hl => (hlast hk).1.trans (hlast hl).1.symm }
    · have hiff {k : Nat} {r e : Option String} :
          (ofAgent agent).Completed (ss ++ [s]) n k r e ↔ (ofAgent agent).Completed ss n k r e := by
        refine completed_concat.trans (or_iff_left ?_)
        rintro ⟨_, name, id, hfinish, hcompletes⟩
        exact hnot name id r e hfinish hcompletes
      have hbefore := ih hold
      exact {
        pending := hbefore.pending
        completed := fun hdone => (hbefore.completed hdone).imp fun _ => hiff.2
        done := fun hk => hbefore.done (hiff.1 hk)
        once := fun hk hl => hbefore.once (hiff.1 hk) (hiff.1 hl) }

/-- Later signals keep every call in its place, and those that are done as they are. -/
theorem applyAll_keeps (later : List (Nat × Signal)) {t : ToolCall}
    (h : a.current.tools[n]? = some t) :
    ∃ u, (a.applyAll later).current.tools[n]? = some u ∧ u.opened = t.opened ∧
      (t.done = true → u = t) := by
  induction later generalizing a t with
  | nil => exact ⟨t, h, rfl, fun _ => rfl⟩
  | cons s rest ih =>
    obtain ⟨u, hu, hopened, hkept⟩ := track_keeps s.2 h
    rw [← tools_apply s.1] at hu
    obtain ⟨v, hv, hopened', hkept'⟩ := ih hu
    refine ⟨v, hv, hopened'.trans hopened, fun hdone => ?_⟩
    obtain rfl := hkept hdone
    exact hkept' hdone

theorem map_opened_applyAll (signals : List (Nat × Signal)) (a : Accumulator) :
    (a.applyAll signals).current.tools.map ToolCall.opened =
      a.current.tools.map ToolCall.opened ++ signals.filterMap (·.2.started?) := by
  induction signals generalizing a with
  | nil => simp [applyAll]
  | cons s rest ih =>
    have hrest := ih (a.apply s.1 s.2)
    rw [tools_apply, map_opened_track, List.append_assoc] at hrest
    refine hrest.trans ?_
    cases hs : s.2.started? <;> simp [hs]

end Accumulator

/-- Since the last flush there is one record for each start, in the order of the starts, whose
name, input and id stay. A record is done just if one finish has completed it; then it has
that finish's result and error, and stays so. A finish completes the latest open record with
its id, or of its tool where it has no id, and where there is none it changes nothing. -/
theorem tool_calls_ledger (a : Accumulator) (signals : List (Nat × Signal)) :
    let fresh := a.flush.2
    let now := fresh.applyAll signals
    now.current.tools.map ToolCall.opened = signals.filterMap (·.2.started?) ∧
    (∀ n t, now.current.tools[n]? = some t →
      (t.done = true ↔ ∃! k, ∃ result error, fresh.Completed signals n k result error) ∧
      (t.done = false → t = t.opened) ∧
      (∀ k result error, fresh.Completed signals n k result error →
        t.done = true ∧ t.result = result ∧ t.error = error) ∧
      ∀ later, ∃ u, (fresh.applyAll (signals ++ later)).current.tools[n]? = some u ∧
        u.opened = t.opened ∧ (t.done = true → u = t)) ∧
    ∀ time name id result error,
      (∃ n t, Accumulator.Completes name id now.current.tools n ∧
        now.current.tools[n]? = some t ∧
        (now.apply time (.toolFinished name id result error)).current.tools =
          now.current.tools.set n { t with result, error, done := true }) ∨
      (∀ t ∈ now.current.tools, t.done = false → ¬ t.Fits name id) ∧
        now.apply time (.toolFinished name id result error) = now := by
  intro fresh now
  refine ⟨Accumulator.map_opened_applyAll signals fresh, fun n t ht => ?_,
    fun time name id result error =>
      Accumulator.apply_toolFinished time name id result error now⟩
  have hexplained : fresh.Explained signals n t := Accumulator.explained a.agent signals ht
  refine ⟨⟨fun hdone => ?_, ?_⟩, hexplained.pending, fun _ _ _ => hexplained.done, fun later => ?_⟩
  · obtain ⟨k, hk⟩ := hexplained.completed hdone
    exact ⟨k, ⟨_, _, hk⟩, fun l ⟨_, _, hl⟩ => hexplained.once hl hk⟩
  · rintro ⟨k, ⟨_, _, hk⟩, _⟩
    exact (hexplained.done hk).1
  · rw [Accumulator.applyAll_append]
    exact Accumulator.applyAll_keeps later ht

/-- Of two open calls with one id the later is completed, whatever tool the finish names. -/
example :
    let signals : List (Nat × Signal) := [
      (1, .toolStarted "grep" "first" (some "a")), (2, .toolStarted "grep" "second" (some "a")),
      (3, .toolFinished "read" (some "a") (some "found") none)]
    ((Accumulator.ofAgent none).applyAll signals).current.tools =
      [⟨"grep", "first", some "a", none, none, false⟩,
        ⟨"grep", "second", some "a", some "found", none, true⟩] := by
  decide

end SessionRecorder

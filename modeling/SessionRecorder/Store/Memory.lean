import SessionRecorder.Store.Basic

/-!
A store in memory, with switches for the faults of a real one.
-/

namespace SessionRecorder

structure StoredTurn where
  number : UInt64
  parent : UInt64
  delivery : Delivery
deriving DecidableEq

structure MemoryStore where
  tag : String
  connected : Bool := false
  /-- The number of contexts; their ids count from one. -/
  contexts : Nat := 0
  /-- The stored turns, oldest first; their numbers count from one. -/
  turns : List StoredTurn := []
  connects : Nat := 0
  appends : Nat := 0
  failsConnect : Bool := false
  failsAppends : Bool := false
  failsCreate : Bool := false
  /-- Appends behind so many lose the connection. -/
  appendLimit : Option Nat := none
  rejected : List String := []
deriving DecidableEq

namespace MemoryStore

def delivered (s : MemoryStore) : List Delivery := s.turns.map (·.delivery)

def turnsIn (context : UInt64) (s : MemoryStore) : List StoredTurn :=
  s.turns.filter (·.delivery.context = context)

def contextIds (s : MemoryStore) : List UInt64 :=
  (List.range s.contexts).map fun n => .ofNat (n + 1)

/-- The number of turns of a context, or the largest number that a head can hold. -/
def depth (context : UInt64) (s : MemoryStore) : UInt32 :=
  .ofNat (min (s.turnsIn context).length 4294967295)

def failAppendsAfter (n : Nat) (s : MemoryStore) : MemoryStore :=
  { s with appendLimit := some (s.appends + n) }

def reject (typeId : String) (s : MemoryStore) : MemoryStore :=
  { s with rejected := s.rejected ++ [typeId] }

def disconnect (s : MemoryStore) : MemoryStore := { s with connected := false }

def connect (s : MemoryStore) : Except StoreError Unit × MemoryStore :=
  let s := { s with connects := s.connects + 1 }
  if s.failsConnect then (.error (.connect "memory" .refused), s.disconnect)
  else (.ok (), { s with connected := true })

def newContext (turn : UInt64) (s : MemoryStore) : Except StoreError ContextHead × MemoryStore :=
  if !s.connected then (.error .notConnected, s)
  else if s.failsCreate then (.error (.protocol (some 500) "context creation disabled"), s)
  else (.ok ⟨.ofNat (s.contexts + 1), turn, 0⟩, { s with contexts := s.contexts + 1 })

def head (context : UInt64) (s : MemoryStore) : Except StoreError TurnHead × MemoryStore :=
  if !s.connected then (.error .notConnected, s)
  else (.ok ⟨((s.turnsIn context).getLast?.map (·.number)).getD 0, s.depth context⟩, s)

def losesAppend (s : MemoryStore) : Bool :=
  s.failsAppends || s.appendLimit.any (· < s.appends)

def append (parent : UInt64) (d : Delivery) (s : MemoryStore) :
    Except StoreError ContextHead × MemoryStore :=
  if !s.connected then (.error .notConnected, s)
  else
    let s := { s with appends := s.appends + 1 }
    if s.rejected.contains d.type.id then
      (.error (.protocol (some 413) s!"type {d.type.id} rejected"), s)
    else if s.losesAppend then (.error (.connectionLost .reset), s.disconnect)
    else
      let number := UInt64.ofNat (s.turns.length + 1)
      let s := { s with turns := s.turns ++ [⟨number, parent, d⟩] }
      (.ok ⟨d.context, number, s.depth d.context⟩, s)

/-- All that an append can do: fail without a connection, be rejected, lose the
connection, or store a turn. -/
theorem append_cases (parent : UInt64) (d : Delivery) (s : MemoryStore) :
    (s.connected = false ∧ s.append parent d = (.error .notConnected, s)) ∨
    (s.connected = true ∧ d.type.id ∈ s.rejected ∧
      s.append parent d = (.error (.protocol (some 413) s!"type {d.type.id} rejected"),
        { s with appends := s.appends + 1 })) ∨
    (s.connected = true ∧ d.type.id ∉ s.rejected ∧
      losesAppend { s with appends := s.appends + 1 } = true ∧
      s.append parent d = (.error (.connectionLost .reset),
        { s with appends := s.appends + 1, connected := false })) ∨
    (s.connected = true ∧ d.type.id ∉ s.rejected ∧
      losesAppend { s with appends := s.appends + 1 } = false ∧
      ∃ ack, s.append parent d = (.ok ack, { s with
        appends := s.appends + 1
        turns := s.turns ++ [⟨UInt64.ofNat (s.turns.length + 1), parent, d⟩] })) := by
  unfold append
  by_cases hc : s.connected = true
  · have hn : (!s.connected) = false := by simp [hc]
    by_cases hr : d.type.id ∈ s.rejected
    · have hr' : s.rejected.contains d.type.id = true := by simpa using hr
      refine .inr (.inl ⟨hc, hr, ?_⟩)
      simp only [hn, hr', Bool.false_eq_true, ↓reduceIte]
    · have hr' : s.rejected.contains d.type.id = false := by simpa using hr
      cases hl : losesAppend { s with appends := s.appends + 1 } with
      | true =>
        refine .inr (.inr (.inl ⟨hc, hr, rfl, ?_⟩))
        simp only [hn, hr', hl, Bool.false_eq_true, ↓reduceIte]
        rfl
      | false =>
        refine .inr (.inr (.inr ⟨hc, hr, rfl, ?_⟩))
        simp only [hn, hr', hl, Bool.false_eq_true, ↓reduceIte]
        exact ⟨_, rfl⟩
  · have hc : s.connected = false := by simpa using hc
    refine .inl ⟨hc, ?_⟩
    simp only [hc, Bool.not_false, ↓reduceIte]

section

variable {parent : UInt64} {d : Delivery} {s next : MemoryStore} {e : StoreError}

theorem of_append_ok {ack : ContextHead} (h : s.append parent d = (.ok ack, next)) :
    s.connected = true ∧ d.type.id ∉ s.rejected ∧ next = { s with
      appends := s.appends + 1
      turns := s.turns ++ [⟨UInt64.ofNat (s.turns.length + 1), parent, d⟩] } := by
  rcases append_cases parent d s with ⟨_, ha⟩ | ⟨_, _, ha⟩ | ⟨_, _, _, ha⟩ | ⟨hc, hr, _, _, ha⟩ <;>
    rw [ha, Prod.mk.injEq] at h
  · cases h.1
  · cases h.1
  · cases h.1
  · exact ⟨hc, hr, h.2.symm⟩

theorem of_append_refused (h : s.append parent d = (.error e, next)) (he : e.isProtocol = true) :
    d.type.id ∈ s.rejected ∧ next = { s with appends := s.appends + 1 } := by
  rcases append_cases parent d s with ⟨_, ha⟩ | ⟨_, hr, ha⟩ | ⟨_, _, _, ha⟩ | ⟨_, _, _, _, ha⟩ <;>
    rw [ha, Prod.mk.injEq] at h
  · cases h.1
    cases he
  · exact ⟨hr, h.2.symm⟩
  · cases h.1
    cases he
  · cases h.1

theorem of_append_failed (h : s.append parent d = (.error e, next)) (he : e.isProtocol = false) :
    (s.connected = false ∨ losesAppend { s with appends := s.appends + 1 } = true) ∧
      ∃ appends, next = { s with appends, connected := false } := by
  rcases append_cases parent d s with ⟨hc, ha⟩ | ⟨_, _, ha⟩ | ⟨_, _, hl, ha⟩ | ⟨_, _, _, _, ha⟩ <;>
    rw [ha, Prod.mk.injEq] at h
  · refine ⟨.inl hc, s.appends, ?_⟩
    rw [← h.2, ← hc]
  · cases h.1
    cases he
  · exact ⟨.inr hl, _, h.2.symm⟩
  · cases h.1

end

/-- A change of what the store does from now on. -/
inductive Switch where
  | disconnect
  | failConnect (on : Bool)
  | failAppends (on : Bool)
  | failCreate (on : Bool)
  | failAppendsAfter (n : Nat)
  | reject (typeId : String)
deriving DecidableEq

def switch (s : MemoryStore) : Switch → MemoryStore
  | .disconnect => s.disconnect
  | .failConnect on => { s with failsConnect := on }
  | .failAppends on => { s with failsAppends := on }
  | .failCreate on => { s with failsCreate := on }
  | .failAppendsAfter n => s.failAppendsAfter n
  | .reject typeId => s.reject typeId

instance : ContextStore MemoryStore where
  isConnected := (·.connected)
  clientTag := (·.tag)
  connect := connect
  create _ := newContext 0
  fork := newContext
  head := head
  append := append
  close := disconnect

end MemoryStore

end SessionRecorder

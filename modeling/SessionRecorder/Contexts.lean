import SessionRecorder.Lineage
import SessionRecorder.Log
import SessionRecorder.Store.Basic

/-!
The contexts of a session in a store, and the ways in which it gets them.
-/

namespace SessionRecorder

/-- The contexts of a session: for its turns, for all its events, and those from
which they come. -/
structure SessionContexts where
  turns : UInt64
  events : UInt64
  parent : Option UInt64
  root : Option UInt64
deriving DecidableEq

abbrev Resolver (σ : Type) :=
  Lineage → σ → Except StoreError SessionContexts × Log.Journal × σ

def Resolver.createNew {σ : Type} [ContextStore σ] : Resolver σ := fun l store =>
  match ContextStore.create 0 store with
  | (.error e, store) => (.error e, [], store)
  | (.ok turns, store) =>
    match ContextStore.create 0 store with
    | (.error e, store) => (.error e, [], store)
    | (.ok events, store) =>
      (.ok ⟨turns.context, events.context, none, none⟩,
        [.info "created CXDB contexts" [("session_id", l.sessionId),
          ("turns", toString turns.context.toNat), ("events", toString events.context.toNat)]],
        store)

def Resolver.fixed {σ : Type} (contexts : SessionContexts) : Resolver σ := fun _ store =>
  (.ok contexts, [], store)

def Resolver.failing {σ : Type} (e : StoreError) : Resolver σ := fun _ store =>
  (.error e, [], store)

/-- Forks the context of the turns from a turn, and creates the context of the events
with another one that stays empty. -/
def Resolver.forkTurns {σ : Type} [ContextStore σ] (base : UInt64) : Resolver σ := fun l store =>
  match ContextStore.fork base store with
  | (.error e, store) => (.error e, [], store)
  | (.ok head, store) =>
    let (result, journal, store) := createNew l store
    (result.map fun contexts => { contexts with turns := head.context }, journal, store)

end SessionRecorder

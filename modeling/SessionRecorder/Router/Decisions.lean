import SessionRecorder.Router.Handling

/-!
What the router decides depends on the events and the steady clock alone: nothing
that is done with the store or the registry touches the pipeline. Main statement:
`pipeline_handleEvent`.
-/

namespace SessionRecorder.Router

variable {σ ρ : Type} [ContextStore σ]

@[simp] theorem pipeline_submitItems (c : UInt64) (items : List Payload) (r : Router σ ρ) :
    (submitItems c items r).2.pipeline = r.pipeline := by
  induction items generalizing r with
  | nil => rfl
  | cons item rest ih => exact ih _

@[simp] theorem pipeline_recordTurn (time : Int64) (finished : Option Turn) (r : Router σ ρ) :
    (r.recordTurn time finished).2.pipeline = r.pipeline := by
  unfold recordTurn
  split
  · rfl
  · split
    · rfl
    · simp

@[simp] theorem pipeline_recordEvent (time : Int64) (event : String) (data : Json)
    (r : Router σ ρ) : (r.recordEvent time event data).2.pipeline = r.pipeline := by
  unfold recordEvent
  split <;> rfl

@[simp] theorem pipeline_sendPending (r : Router σ ρ) :
    r.sendPending.2.pipeline = r.pipeline := by
  unfold sendPending
  split <;> rfl

@[simp] theorem pipeline_catchUp (r : Router σ ρ) : r.catchUp.pipeline = r.pipeline :=
  pipeline_sendPending r

@[simp] theorem pipeline_connectFirst (r : Router σ ρ) :
    r.connectFirst.2.pipeline = r.pipeline := by
  unfold connectFirst
  split <;> rfl

/-- The end of a session flushes the turn. -/
theorem pipeline_cleanUp (time : Int64) (r : Router σ ρ) :
    (r.cleanUp time).pipeline = { r.pipeline with turns := r.pipeline.turns.flush.2 } := by
  unfold cleanUp
  simp [withStore, reportFailures, report]

variable [RegistryPublisher ρ]

omit [ContextStore σ] in
@[simp] theorem pipeline_publishBundle (r : Router σ ρ) :
    r.publishBundle.pipeline = r.pipeline := by
  unfold publishBundle
  split
  · split <;> rfl
  · rfl

@[simp] theorem pipeline_setUp (time : Int64) (r : Router σ ρ) :
    (r.setUp time).2.pipeline = r.pipeline := by
  unfold setUp
  split
  · rfl
  · have first := pipeline_connectFirst r
    split
    · rename_i h; rw [h] at first; exact first
    · rename_i r₁ h
      rw [h] at first
      have second : r₁.publishBundle.resolve.2.pipeline = r₁.pipeline :=
        pipeline_publishBundle r₁
      split <;> rename_i h' <;> rw [h'] at second <;> exact second.trans first

@[simp] theorem pipeline_prepare (time : Int64) (r : Router σ ρ) :
    (r.prepare time).2.pipeline = r.pipeline := by
  unfold prepare
  split
  · exact pipeline_setUp time r
  · split <;> rfl

/-- An event changes the pipeline by one step of the pipeline. -/
theorem pipeline_handleEvent (t : Readings) (event : String) (data : Json) (r : Router σ ρ) :
    (r.handleEvent t event data).pipeline = (r.pipeline.step t.steady event data).2 := by
  have ready : (r.prepare t.setUp).2.catchUp.pipeline = r.pipeline := by simp
  unfold handleEvent
  simp only [ready]
  split
  · rfl
  · simp [reportFailures, report]

end SessionRecorder.Router

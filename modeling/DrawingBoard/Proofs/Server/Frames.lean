/-
The frame that a server shows.

The worker takes a snapshot after every operation, and each of them binds figures and
lets moves take effect.  The frame shows the same as if all operations had been applied
first and one snapshot had been taken in the end, since snapshots of one size do not
show (`settle_apply_congr`).  `Shows` states this of a server; performing an operation
keeps it, and so does following a step of the executor.
-/
import DrawingBoard.Proofs.Drawing.Painting
import DrawingBoard.Proofs.Scene.Granularity
import DrawingBoard.Server.Basic

namespace DrawingBoard

namespace Scene

/-- What a snapshot of the scene shows. -/
def picture (s : Scene) (size : Size) : Canvas :=
  Surface.fillAll (Canvas.blank size) ((s.settle size.bounds).calls size.bounds)

theorem snapshot_screen (s : Scene) {budget : UInt64} {size : Size}
    (h : Canvas.Accepts budget size) :
    s.snapshot (Canvas.screen budget) size = (.ok (s.picture size), s.settle size.bounds) :=
  snapshot_eq h.newSurface s

theorem picture_congr {s t : Scene} {size : Size}
    (h : s.settle size.bounds = t.settle size.bounds) : s.picture size = t.picture size := by
  rw [picture, picture, h]

end Scene

namespace Server

/-! ### What a step leaves alone -/

theorem perform_eq {s : Server} (h : Canvas.Accepts s.budget s.frameSize) (op : Operation) :
    s.perform op =
      { s with
        scene := (s.scene.apply op).settle s.frameSize.bounds
        latest := some ((s.scene.apply op).picture s.frameSize) } := by
  simp only [perform, refresh, Scene.snapshot_screen _ h]

/-- Performing an operation has nothing to do with the executor. -/
theorem perform_executor (s : Server) (e : Executor) (op : Operation) :
    perform { s with executor := e } op = { s.perform op with executor := e } := by
  simp only [perform, refresh]
  split <;> rfl

theorem batcher_perform (s : Server) (op : Operation) : (s.perform op).batcher = s.batcher := by
  simp only [perform, refresh]
  split <;> rfl

theorem foldl_perform_executor (e : Executor) (ops : List Operation) :
    ∀ s : Server, ops.foldl perform { s with executor := e }
      = { ops.foldl perform s with executor := e } := by
  induction ops with
  | nil => intro s; rfl
  | cons op rest ih =>
      intro s
      rw [List.foldl_cons, perform_executor, ih]
      rfl

theorem batcher_foldl_perform (ops : List Operation) :
    ∀ s : Server, (ops.foldl perform s).batcher = s.batcher := by
  induction ops with
  | nil => intro s; rfl
  | cons op rest ih => intro s; rw [List.foldl_cons, ih, batcher_perform]

/-- Following a step is taking over the executor and performing what it applied. -/
theorem follow_eq (s : Server) (step : Progress × Executor) :
    s.follow step = { step.1.applied.foldl perform s with executor := step.2 } :=
  foldl_perform_executor step.2 step.1.applied s

theorem executor_follow (s : Server) (step : Progress × Executor) :
    (s.follow step).executor = step.2 := by
  rw [follow_eq]

theorem batcher_follow (s : Server) (step : Progress × Executor) :
    (s.follow step).batcher = s.batcher := by
  rw [follow_eq]
  exact batcher_foldl_perform ..

/-! ### The board that is shown -/

/-- The server shows the board of `s₀` with the operations `done` applied to it, as if there
had been no snapshot on the way. -/
structure Shows (s₀ s : Server) (done : List Operation) : Prop where
  budget : s.budget = s₀.budget
  frameSize : s.frameSize = s₀.frameSize
  numbered : s.scene.Numbered
  scene : s.scene.settle s₀.frameSize.bounds
    = (s₀.scene.applyAll done).settle s₀.frameSize.bounds
  latest : done ≠ [] → s.latest = some ((s₀.scene.applyAll done).picture s₀.frameSize)

namespace Shows

variable {s₀ s : Server} {done : List Operation}

theorem refl (h : s₀.scene.Numbered) : Shows s₀ s₀ [] :=
  ⟨rfl, rfl, h, rfl, fun hne => absurd rfl hne⟩

theorem perform (h : Shows s₀ s done) (hnumbered : s₀.scene.Numbered)
    (haccepts : Canvas.Accepts s₀.budget s₀.frameSize) (op : Operation) :
    Shows s₀ (s.perform op) (done ++ [op]) := by
  have hmine : Canvas.Accepts s.budget s.frameSize := by rwa [h.budget, h.frameSize]
  have hgoal : s₀.scene.applyAll (done ++ [op]) = (s₀.scene.applyAll done).apply op :=
    List.foldl_concat ..
  have hsettle : (s.scene.apply op).settle s₀.frameSize.bounds
      = ((s₀.scene.applyAll done).apply op).settle s₀.frameSize.bounds :=
    Scene.settle_apply_congr h.numbered (hnumbered.applyAll done) h.scene op
  rw [perform_eq hmine, h.frameSize]
  refine ⟨h.budget, rfl, (h.numbered.apply op).settle _, ?_, fun _ => ?_⟩
  · rw [hgoal, ← hsettle]
    exact Scene.settle_settle ..
  · rw [hgoal]
    exact congrArg some (Scene.picture_congr hsettle)

theorem foldl_perform (hnumbered : s₀.scene.Numbered)
    (haccepts : Canvas.Accepts s₀.budget s₀.frameSize) (ops : List Operation) :
    ∀ {s : Server} {done : List Operation}, Shows s₀ s done →
      Shows s₀ (ops.foldl Server.perform s) (done ++ ops) := by
  induction ops with
  | nil => intro s done h; rwa [List.append_nil]
  | cons op rest ih =>
      intro s done h
      rw [List.append_cons]
      exact ih (h.perform hnumbered haccepts op)

theorem follow (h : Shows s₀ s done) (hnumbered : s₀.scene.Numbered)
    (haccepts : Canvas.Accepts s₀.budget s₀.frameSize) (step : Progress × Executor) :
    Shows s₀ (s.follow step) (done ++ step.1.applied) := by
  have hdone := foldl_perform hnumbered haccepts step.1.applied h
  rw [follow_eq]
  exact ⟨hdone.budget, hdone.frameSize, hdone.numbered, hdone.scene, hdone.latest⟩

end Shows

end Server

end DrawingBoard

/-
How often snapshots are taken does not show.

On a surface of one size, a snapshot in between only does early what the snapshot at
the end would do anyway: it binds figures to the same frame, and it lets moves take
effect in the same order on the same figures.  So a history with any number of
snapshots ends, after a last one, in the scene and the picture of the same history
without them, and with no move left (`record_applyWith`).

Two scenes are alike here if they settle to the same scene.  The induction goes along
the history with two scenes that are alike, and its step is `settle_apply_settle`:
settling before an operation is lost in settling after it.  Of all operations only
adding a figure needs an argument, since the moves that were drained early would
otherwise have run with the new figure on the board.  They are not aimed at it.
-/
import DrawingBoard.Proofs.Scene.Numbering

namespace DrawingBoard

namespace Scene

theorem settle_settle (s : Scene) (bounds bounds' : Rect) :
    (s.settle bounds).settle bounds' = s.settle bounds :=
  settle_of_settled (s.settled_settle bounds) bounds'

/-! ### What an operation adds to the next snapshot -/

/-- A new figure is bound to the bounds and not moved. -/
theorem figures_settle_figure {s : Scene} (h : s.Numbered) (bounds : Rect) (figure : Figure) :
    ((s.apply (.figure figure)).settle bounds).figures
      = (s.settle bounds).figures ++ [⟨s.nextId, figure, some bounds⟩] := by
  have hnew : (PlacedFigure.bind ⟨s.nextId, figure, none⟩ bounds).shiftAll
      ((PendingMove.aimedAt s.nextId s.moves).map bounds.scale)
        = ⟨s.nextId, figure, some bounds⟩ := by
    rw [h.aimedAt_nextId]
    rfl
  rw [settle_figures, settle_figures, ← hnew]
  exact List.map_append

/-- A new move takes effect last, on the figures that are there. -/
theorem figures_settle_move (s : Scene) (bounds : Rect) (offset : Relative) :
    ((s.apply (.move offset)).settle bounds).figures
      = PendingMove.run bounds (s.settle bounds).figures ⟨offset, Targets.ofList s.ids⟩ := by
  show PendingMove.runAll bounds (s.moves ++ [⟨offset, Targets.ofList s.ids⟩])
    (s.figures.map (·.bind bounds)) = _
  rw [PendingMove.runAll, List.foldl_append]
  rfl

/-- Settling before an operation is lost in settling after it. -/
theorem settle_apply_settle {s : Scene} (h : s.Numbered) (bounds : Rect) (op : Operation) :
    ((s.settle bounds).apply op).settle bounds = (s.apply op).settle bounds := by
  have hfigures := congrArg Scene.figures (s.settle_settle bounds bounds)
  have hbox := congrArg Scene.boundingBox (s.settle_settle bounds bounds)
  cases op with
  | fill color => exact Scene.ext rfl hbox hfigures rfl rfl
  | figure figure =>
      refine Scene.ext rfl hbox ?_ rfl rfl
      rw [figures_settle_figure (h.settle bounds), figures_settle_figure h, settle_settle,
        settle_nextId]
  | boundingBox box => exact Scene.ext rfl rfl hfigures rfl rfl
  | move offset =>
      refine Scene.ext rfl hbox ?_ rfl rfl
      rw [figures_settle_move, figures_settle_move, settle_settle, settle_ids]
  | reset => rfl
  | update => exact s.settle_settle bounds bounds

/-- Scenes that settle alike go on settling alike. -/
theorem settle_apply_congr {s t : Scene} (hs : s.Numbered) (ht : t.Numbered) {bounds : Rect}
    (h : s.settle bounds = t.settle bounds) (op : Operation) :
    (s.apply op).settle bounds = (t.apply op).settle bounds := by
  rw [← settle_apply_settle hs, ← settle_apply_settle ht, h]

/-! ### Histories with snapshots -/

/-- The scene after operations and snapshots; `none` stands for a snapshot. -/
def applyWith (bounds : Rect) (s : Scene) : List (Option Operation) → Scene
  | [] => s
  | some op :: rest => applyWith bounds (s.apply op) rest
  | none :: rest => applyWith bounds (s.record bounds).2 rest

theorem settle_applyWith (bounds : Rect) (steps : List (Option Operation)) :
    ∀ {s t : Scene}, s.Numbered → t.Numbered → s.settle bounds = t.settle bounds →
      (s.applyWith bounds steps).settle bounds
        = (t.applyAll (steps.filterMap id)).settle bounds := by
  induction steps with
  | nil => intro s t _ _ h; exact h
  | cons step rest ih =>
      intro s t hs ht h
      cases step with
      | none => exact ih (hs.settle bounds) ht ((s.settle_settle bounds bounds).trans h)
      | some op => exact ih (hs.apply op) (ht.apply op) (settle_apply_congr hs ht h op)

/-- **Snapshots on one surface size may be taken at any time in between: the last one shows the
same, and leaves the same scene, in which no move waits.** -/
theorem record_applyWith {s : Scene} (h : s.Reachable) (bounds : Rect)
    (steps : List (Option Operation)) :
    (s.applyWith bounds steps).record bounds
        = (s.applyAll (steps.filterMap id)).record bounds
      ∧ ((s.applyWith bounds steps).record bounds).2.moves = [] := by
  constructor
  · rw [record_eq, record_eq, settle_applyWith bounds steps h.numbered h.numbered rfl]
  · rw [record_eq]
    exact settle_moves _ bounds

/-- The opening as it is bound to a small surface. -/
def smallOpening : Scene := ((Scene.empty.applyAll opening).record (Size.bounds ⟨4, 4⟩)).2

/-- A move, a new figure and another move, with a snapshot between each two. -/
def interspersed : List (Option Operation) :=
  [some (.move ⟨0.25, 0⟩), none, some (.figure { center := ⟨0.25, 0.25⟩ }), none,
    some (.move ⟨0, 0.5⟩)]

/-- The new figure is bound before the last move, and ends as if it were bound after it. -/
theorem record_applyWith_opening :
    smallOpening.Reachable ∧
      (smallOpening.applyWith (Size.bounds ⟨8, 8⟩) interspersed).record (Size.bounds ⟨8, 8⟩)
        = (smallOpening.applyAll
            [.move ⟨0.25, 0⟩, .figure { center := ⟨0.25, 0.25⟩ }, .move ⟨0, 0.5⟩]).record
          (Size.bounds ⟨8, 8⟩) ∧
      ((smallOpening.applyWith (Size.bounds ⟨8, 8⟩) interspersed).record
        (Size.bounds ⟨8, 8⟩)).2.moves = [] := by
  have hreach : smallOpening.Reachable := (Reachable.empty.applyAll opening).record _
  obtain ⟨hsame, hmoves⟩ := record_applyWith hreach (Size.bounds ⟨8, 8⟩) interspersed
  exact ⟨hreach, hsame, hmoves⟩

end Scene

end DrawingBoard

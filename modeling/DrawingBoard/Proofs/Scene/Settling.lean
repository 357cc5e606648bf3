/-
Settled scenes: every element has a frame and no move waits.

This is the state in which a snapshot leaves a scene, and a settled scene is not
changed by a further snapshot, whatever its bounds (`settle_of_settled`).  An
operation applied to a settled scene disturbs it only by what it adds.

Binding and moving treat each figure on its own and never look at the others, so
both distribute over a list of figures that is put together from two.
-/
import DrawingBoard.Proofs.Scene.Recording

namespace DrawingBoard

/-! ### One figure -/

namespace PlacedFigure

/-- The first frame stays. -/
theorem bind_of_isSome {f : PlacedFigure} (h : f.frame.isSome = true) (frame : Rect) :
    f.bind frame = f := by
  obtain ⟨id, figure, frame'⟩ := f
  cases frame' with
  | none => simp at h
  | some frame' => rfl

end PlacedFigure

theorem PlacedBox.bind_of_isSome {b : PlacedBox} (h : b.frame.isSome = true) (frame : Rect) :
    b.bind frame = b := by
  obtain ⟨box, frame'⟩ := b
  cases frame' with
  | none => simp at h
  | some frame' => rfl

/-- Shifts the figure's frame several times, one after the other. -/
def PlacedFigure.shiftAll (f : PlacedFigure) (ds : List Point) : PlacedFigure :=
  { f with frame := f.frame.map fun frame => ds.foldl Rect.translate frame }

theorem PlacedFigure.shiftAll_nil (f : PlacedFigure) : f.shiftAll [] = f := by
  obtain ⟨id, figure, frame⟩ := f
  cases frame <;> rfl

theorem PlacedFigure.shiftAll_cons (f : PlacedFigure) (d : Point) (ds : List Point) :
    f.shiftAll (d :: ds) = (f.shift d).shiftAll ds := by
  simp only [shiftAll, shift, Option.map_map]
  rfl

/-! ### Many moves -/

namespace PendingMove

/-- The offsets of the moves that are aimed at a figure. -/
def aimedAt (id : FigureId) (moves : List PendingMove) : List Relative :=
  (moves.filter (·.targets.contains id)).map (·.offset)

theorem aimedAt_cons (id : FigureId) (m : PendingMove) (moves : List PendingMove) :
    aimedAt id (m :: moves)
      = if m.targets.contains id then m.offset :: aimedAt id moves else aimedAt id moves := by
  cases haimed : m.targets.contains id <;> simp [aimedAt, haimed]

/-- The figures after several moves have taken effect, one after the other. -/
def runAll (bounds : Rect) (moves : List PendingMove) (figures : List PlacedFigure) :
    List PlacedFigure := moves.foldl (run bounds) figures

/-- Each figure is shifted by the moves that are aimed at it. -/
theorem runAll_eq_map (bounds : Rect) (moves : List PendingMove) :
    ∀ figures : List PlacedFigure,
      runAll bounds moves figures
        = figures.map fun f => f.shiftAll ((aimedAt f.id moves).map bounds.scale) := by
  induction moves with
  | nil =>
      intro figures
      exact (List.map_id _).symm.trans (List.map_congr_left fun f _ => f.shiftAll_nil.symm)
  | cons m rest ih =>
      intro figures
      show runAll bounds rest (run bounds figures m) = _
      rw [ih, run, List.map_map]
      refine List.map_congr_left fun f _ => ?_
      rw [Function.comp_apply, aimedAt_cons]
      by_cases haimed : m.targets.contains f.id = true
      · rw [if_pos haimed, if_pos haimed, List.map_cons, PlacedFigure.shiftAll_cons]
        rfl
      · rw [if_neg haimed, if_neg haimed]

end PendingMove

namespace Scene

/-! ### What a snapshot does to a scene -/

attribute [ext] Scene

/-- Every element has a frame, and no move waits. -/
structure Settled (s : Scene) : Prop where
  figures : ∀ f ∈ s.figures, f.frame.isSome = true
  boundingBox : ∀ b ∈ s.boundingBox, b.frame.isSome = true
  moves : s.moves = []

theorem settle_backgrounds (s : Scene) (bounds : Rect) :
    (s.settle bounds).backgrounds = s.backgrounds := rfl

theorem settle_boundingBox (s : Scene) (bounds : Rect) :
    (s.settle bounds).boundingBox = s.boundingBox.map (·.bind bounds) := rfl

/-- Each figure keeps the frame it has or takes the bounds, and is then shifted by the moves
that are aimed at it. -/
theorem settle_figures (s : Scene) (bounds : Rect) :
    (s.settle bounds).figures = s.figures.map fun f =>
      (f.bind bounds).shiftAll ((PendingMove.aimedAt f.id s.moves).map bounds.scale) := by
  show PendingMove.runAll bounds s.moves (s.figures.map (·.bind bounds)) = _
  rw [PendingMove.runAll_eq_map, List.map_map]
  rfl

theorem settle_moves (s : Scene) (bounds : Rect) : (s.settle bounds).moves = [] := rfl

theorem settle_nextId (s : Scene) (bounds : Rect) : (s.settle bounds).nextId = s.nextId := rfl

theorem settle_ids (s : Scene) (bounds : Rect) : (s.settle bounds).ids = s.ids := by
  rw [ids, settle_figures, List.map_map]
  rfl

theorem settled_settle (s : Scene) (bounds : Rect) : (s.settle bounds).Settled where
  figures := by
    intro f hf
    rw [settle_figures] at hf
    obtain ⟨g, -, rfl⟩ := List.mem_map.mp hf
    rfl
  boundingBox := by
    intro b hb
    rw [settle_boundingBox] at hb
    obtain ⟨b', -, rfl⟩ := Option.map_eq_some_iff.mp hb
    rfl
  moves := rfl

/-- A settled scene has nothing left to bind or to move. -/
theorem settle_of_settled {s : Scene} (h : s.Settled) (bounds : Rect) : s.settle bounds = s := by
  have hfigures : (s.settle bounds).figures = s.figures := by
    rw [settle_figures, h.moves]
    refine (List.map_congr_left fun f hf => ?_).trans (List.map_id _)
    rw [PlacedFigure.bind_of_isSome (h.figures f hf)]
    exact f.shiftAll_nil
  have hbox : (s.settle bounds).boundingBox = s.boundingBox := by
    rw [settle_boundingBox]
    cases hb : s.boundingBox with
    | none => rfl
    | some b => exact congrArg some (PlacedBox.bind_of_isSome (h.boundingBox b hb) bounds)
  exact Scene.ext (s.settle_backgrounds bounds) hbox hfigures h.moves.symm rfl

end Scene

end DrawingBoard

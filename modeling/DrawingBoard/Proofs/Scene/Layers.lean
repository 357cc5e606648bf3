/-
How the layers of a board come about.

The backgrounds, the bounding box and the figures are put on a board by different
operations, and each layer comes about by its own operations alone.  An operation on
another layer leaves it as it is, and an operation on the layer reads nothing but the
layer (`Owns`).  Moves go with the figures: they take the ids of the figures that are
there, and figures take the next id.  So operations may change places across layers, as
long as each layer gets its own in the same order (`layers_independent`).

A reset touches all layers at once.  It is the one place that operations must not be
carried across, and it parts a sequence into segments that are shuffled separately.
-/
import DrawingBoard.Proofs.Scene.Renumbering
import Mathlib.Data.List.Forall2

namespace DrawingBoard

namespace Operation

/-- The layer that an operation changes, unless it changes all of them or none. -/
def layer? : Operation → Option Layer
  | .fill _ => some .background
  | .boundingBox _ => some .boundingBox
  | .figure _ | .move _ => some .figures
  | .reset | .update => none

/-- The operations on a layer, in their order. -/
def onLayer (layer : Layer) (ops : List Operation) : List Operation :=
  ops.filter fun op => decide (op.layer? = some layer)

/-- Each layer gets the same operations in the same order, and there is no reset. -/
structure SameLayers (ops ops' : List Operation) : Prop where
  unreset : .reset ∉ ops
  unreset' : .reset ∉ ops'
  background : onLayer .background ops = onLayer .background ops'
  boundingBox : onLayer .boundingBox ops = onLayer .boundingBox ops'
  figures : onLayer .figures ops = onLayer .figures ops'

end Operation

namespace Scene

/-! ### What belongs to a layer -/

/-- The view shows all of a layer, and nothing else. -/
structure Owns {α : Type} (layer : Layer) (view : Scene → α) : Prop where
  /-- What an operation makes of the layer depends on the layer alone. -/
  reads : ∀ {s t : Scene} (op : Operation), view s = view t → view (s.apply op) = view (t.apply op)
  /-- Only the operations on the layer change it, and a reset. -/
  untouched : ∀ (s : Scene) {op : Operation}, op.layer? ≠ some layer → op ≠ .reset →
    view (s.apply op) = view s

theorem owns_backgrounds : Owns .background Scene.backgrounds where
  reads := by
    intro s t op h
    cases op with
    | fill color => exact congrArg (· ++ [color]) h
    | reset => rfl
    | figure _ | boundingBox _ | move _ | update => exact h
  untouched := by
    intro s op hlayer hreset
    cases op with
    | fill color => exact absurd rfl hlayer
    | reset => exact absurd rfl hreset
    | figure _ | boundingBox _ | move _ | update => rfl

theorem owns_boundingBox : Owns .boundingBox Scene.boundingBox where
  reads := by
    intro s t op h
    cases op with
    | boundingBox box => rfl
    | reset => rfl
    | fill _ | figure _ | move _ | update => exact h
  untouched := by
    intro s op hlayer hreset
    cases op with
    | boundingBox box => exact absurd rfl hlayer
    | reset => exact absurd rfl hreset
    | fill _ | figure _ | move _ | update => rfl

/-- Figures, the moves that are aimed at them, and the id that the next one will get. -/
theorem owns_figures : Owns .figures fun s => (s.figures, s.moves, s.nextId) where
  reads := by
    intro s t op h
    simp only [Prod.mk.injEq] at h
    obtain ⟨hfigures, hmoves, hnext⟩ := h
    cases op with
    | figure figure => simp only [apply, hfigures, hmoves, hnext]
    | move offset => simp only [apply, ids, hfigures, hmoves, hnext]
    | reset => simp only [apply, hnext]
    | fill _ | boundingBox _ | update => simp only [apply, hfigures, hmoves, hnext]
  untouched := by
    intro s op hlayer hreset
    cases op with
    | figure _ | move _ => exact absurd rfl hlayer
    | reset => exact absurd rfl hreset
    | fill _ | boundingBox _ | update => rfl

/-- **A layer comes about by its own operations.** -/
theorem Owns.applyAll_onLayer {α : Type} {layer : Layer} {view : Scene → α}
    (h : Owns layer view) {ops : List Operation} (hreset : .reset ∉ ops) :
    ∀ {s t : Scene}, view s = view t →
      view (s.applyAll ops) = view (t.applyAll (Operation.onLayer layer ops)) := by
  induction ops with
  | nil => intro s t hst; exact hst
  | cons op rest ih =>
      intro s t hst
      rw [List.mem_cons, not_or] at hreset
      by_cases hlayer : op.layer? = some layer
      · rw [Operation.onLayer, List.filter_cons_of_pos (by simpa using hlayer)]
        exact ih hreset.2 (h.reads op hst)
      · rw [Operation.onLayer, List.filter_cons_of_neg (by simpa using hlayer)]
        exact ih hreset.2 ((h.untouched s hlayer (Ne.symm hreset.1)).trans hst)

theorem Owns.applyAll_congr {α : Type} {layer : Layer} {view : Scene → α} (h : Owns layer view)
    {ops ops' : List Operation} (hreset : .reset ∉ ops) (hreset' : .reset ∉ ops')
    (hsame : Operation.onLayer layer ops = Operation.onLayer layer ops') (s : Scene) :
    view (s.applyAll ops) = view (s.applyAll ops') := by
  rw [h.applyAll_onLayer hreset rfl, hsame, ← h.applyAll_onLayer hreset' rfl]

/-! ### Segments between resets -/

/-- Operations may change places across layers. -/
theorem applyAll_of_sameLayers {ops ops' : List Operation} (h : Operation.SameLayers ops ops')
    (s : Scene) : s.applyAll ops = s.applyAll ops' := by
  have hfigures := owns_figures.applyAll_congr h.unreset h.unreset' h.figures s
  simp only [Prod.mk.injEq] at hfigures
  exact Scene.ext (owns_backgrounds.applyAll_congr h.unreset h.unreset' h.background s)
    (owns_boundingBox.applyAll_congr h.unreset h.unreset' h.boundingBox s)
    hfigures.1 hfigures.2.1 hfigures.2.2

/-- The first segment, a reset, and the other segments. -/
theorem applyAll_intercalate_cons (s : Scene) (ops next : List Operation)
    (rest : List (List Operation)) :
    s.applyAll ([.reset].intercalate (ops :: next :: rest))
      = ((s.applyAll ops).apply .reset).applyAll ([.reset].intercalate (next :: rest)) := by
  have hcut : [Operation.reset].intercalate (ops :: next :: rest)
      = ops ++ .reset :: [Operation.reset].intercalate (next :: rest) := by
    simp [List.intercalate]
  rw [hcut, applyAll_append]
  rfl

/-- Operations may change places across layers between one reset and the next. -/
theorem applyAll_intercalate_of_sameLayers {segments segments' : List (List Operation)}
    (h : List.Forall₂ Operation.SameLayers segments segments') :
    ∀ s : Scene, s.applyAll ([.reset].intercalate segments)
      = s.applyAll ([.reset].intercalate segments') := by
  induction h with
  | nil => intro s; rfl
  | @cons ops ops' rest rest' hops hrest ih =>
      intro s
      cases hrest with
      | nil => simpa [List.intercalate] using applyAll_of_sameLayers hops s
      | cons =>
          rw [applyAll_intercalate_cons, applyAll_intercalate_cons, applyAll_of_sameLayers hops]
          exact ih _

/--
**The layers of a board do not interfere.**

Two sequences of operations without a reset that hold the same fills, the same bounding
boxes, and the same figures and moves, each in the same order, make the same of any
board, however the three are mixed and wherever batches end.  The next snapshot draws
the same, whatever its bounds.  If there are resets, it is enough that this holds of
each segment between them.
-/
theorem layers_independent (s : Scene) :
    (∀ ops ops', Operation.SameLayers ops ops' →
      s.applyAll ops = s.applyAll ops' ∧
        ∀ bounds, ((s.applyAll ops).record bounds).1 = ((s.applyAll ops').record bounds).1) ∧
    ∀ segments segments', List.Forall₂ Operation.SameLayers segments segments' →
      s.applyAll ([.reset].intercalate segments) = s.applyAll ([.reset].intercalate segments') ∧
        ∀ bounds, ((s.applyAll ([.reset].intercalate segments)).record bounds).1
          = ((s.applyAll ([.reset].intercalate segments')).record bounds).1 := by
  refine ⟨fun ops ops' h => ?_, fun segments segments' h => ?_⟩
  · have hsame := applyAll_of_sameLayers h s
    exact ⟨hsame, fun bounds => by rw [hsame]⟩
  · have hsame := applyAll_intercalate_of_sameLayers h s
    exact ⟨hsame, fun bounds => by rw [hsame]⟩

/-- Two figures, of which the first is moved, on two backgrounds. -/
def figuresLast : List Operation :=
  [.fill Color.grass, .fill Color.white, .boundingBox (.ofCorners ⟨0, 0⟩ ⟨1, 1⟩),
    .figure { center := ⟨0.5, 0.5⟩ }, .move ⟨0.25, 0⟩, .figure { center := ⟨0.25, 0.5⟩ }]

/-- The same, layer by layer, in another order. -/
def figuresFirst : List Operation :=
  [.figure { center := ⟨0.5, 0.5⟩ }, .fill Color.grass, .move ⟨0.25, 0⟩, .update,
    .figure { center := ⟨0.25, 0.5⟩ }, .boundingBox (.ofCorners ⟨0, 0⟩ ⟨1, 1⟩),
    .fill Color.white]

/-- On a board that is not empty, and again after a reset. -/
theorem layers_independent_figuresFirst :
    Operation.SameLayers figuresLast figuresFirst ∧
      (empty.applyAll opening).applyAll figuresLast
        = (empty.applyAll opening).applyAll figuresFirst ∧
      (empty.applyAll opening).applyAll (figuresLast ++ .reset :: figuresFirst)
        = (empty.applyAll opening).applyAll (figuresFirst ++ .reset :: figuresLast) := by
  have hsame : Operation.SameLayers figuresLast figuresFirst :=
    ⟨by simp [figuresLast], by simp [figuresFirst], rfl, rfl, rfl⟩
  have hsame' : Operation.SameLayers figuresFirst figuresLast :=
    ⟨hsame.unreset', hsame.unreset, rfl, rfl, rfl⟩
  obtain ⟨hone, hsegments⟩ := layers_independent (empty.applyAll opening)
  exact ⟨hsame, (hone _ _ hsame).1,
    (hsegments [figuresLast, figuresFirst] [figuresFirst, figuresLast]
      (.cons hsame (.cons hsame' .nil))).1⟩

end Scene

end DrawingBoard

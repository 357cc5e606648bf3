/-
Figures keep their shape when they are nudged.

The bars of a figure are not shifted with its frame but worked out anew from the frame that
was shifted.  They come out as the old bars shifted (`moves_rigidly`), as long as nothing is
stopped on the way: neither the frame, nor the center and the bars in the frame before and
after.  The extent of the frame may be too long for a coordinate, as it is stopped alike
before and after.

A nudged figure is then hit at the shifted pixels and nowhere else.  It is the only figure
with its id, so there is no doubt which one that is.
-/
import DrawingBoard.Proofs.Drawing.Crosses
import DrawingBoard.Proofs.Scene.Frames

namespace DrawingBoard

/-- A figure in a frame that moves covers the pixels that move with it. -/
theorem Figure.Fits.contains_eq {f : Figure} {frame frame' : Rect} {v : ℤ × ℤ} {p q : Point}
    (h : f.Fits frame) (h' : f.Fits frame') (hmove : frame.Displaced v frame')
    (hq : q.vec = p.vec + v) : f.contains frame' q = f.contains frame p := by
  obtain ⟨hhorizontal, hvertical⟩ := h.displaced h' hmove
  rw [Bool.eq_iff_iff, contains_iff_bars, contains_iff_bars, hhorizontal.contains_eq hq,
    hvertical.contains_eq hq]

theorem PlacedFigure.contains_of_frame {g : PlacedFigure} {frame : Rect}
    (h : g.frame = some frame) (p : Point) : g.contains p = g.figure.contains frame p := by
  unfold contains
  rw [h]

namespace Scene

/-- After a nudge the id names the figure that was shifted, and no other one. -/
theorem Reachable.eq_shift_of_nudge {s : Scene} (h : s.Reachable) {g : PlacedFigure}
    (hg : g ∈ s.figures) (d : Point) :
    g.shift d ∈ (s.nudge g.id d).2.figures ∧
      ∀ g' ∈ (s.nudge g.id d).2.figures, g'.id = g.id → g' = g.shift d := by
  have hmem : g.shift d ∈ (s.nudge g.id d).2.figures := List.mem_map.mpr ⟨g, hg, if_pos rfl⟩
  exact ⟨hmem, fun g' hg' hid => (h.nudge g.id d).numbered.eq_of_id_eq hg' hmem hid⟩

/--
**A figure moves with its frame and keeps its shape.**

If no sum is stopped in shifting the frame and the pixel, and none in working out the
center and the bars in the frame before and after, the figure covers the shifted pixel in
the shifted frame exactly if it covers the pixel in the frame, and both bars are the bars
from before, shifted.  So when a figure on the board is nudged, there is a figure with its
id afterwards, and it is hit at the shifted pixel exactly if it was hit at the pixel.
-/
theorem moves_rigidly {f : Figure} {frame : Rect} {d p : Point}
    (hframe : frame.Displaced d.vec (frame.translate d)) (hp : (p + d).vec = p.vec + d.vec)
    (hhere : f.Fits frame) (hthere : f.Fits (frame.translate d)) :
    f.contains (frame.translate d) (p + d) = f.contains frame p ∧
      (f.cross (frame.translate d)).horizontal = (f.cross frame).horizontal.translate d ∧
      (f.cross (frame.translate d)).vertical = (f.cross frame).vertical.translate d ∧
      ∀ s : Scene, s.Reachable → ∀ g ∈ s.figures, g.figure = f → g.frame = some frame →
        (s.nudge g.id d).1 = true ∧
          (∃ g' ∈ (s.nudge g.id d).2.figures, g'.id = g.id) ∧
          ∀ g' ∈ (s.nudge g.id d).2.figures, g'.id = g.id →
            g'.contains (p + d) = g.contains p := by
  obtain ⟨hhorizontal, hvertical⟩ := hhere.displaced hthere hframe
  have hcontains := hhere.contains_eq hthere hframe hp
  refine ⟨hcontains, hhorizontal.translate_eq.symm, hvertical.translate_eq.symm, ?_⟩
  rintro s hreach g hg rfl hbound
  obtain ⟨hmem, honly⟩ := hreach.eq_shift_of_nudge hg d
  refine ⟨contains_iff_mem_ids.mpr (List.mem_map_of_mem hg), ⟨_, hmem, rfl⟩, ?_⟩
  intro g' hg' hid
  have hshifted : (g.shift d).frame = some (frame.translate d) := by
    rw [PlacedFigure.shift, hbound]
    rfl
  rw [honly g' hg' hid, PlacedFigure.contains_of_frame hshifted,
    PlacedFigure.contains_of_frame hbound]
  exact hcontains

/-- The opened board after its first snapshot, which was an odd number of pixels wide. -/
def firstShown : Scene := ((Scene.empty.applyAll opening).record (Size.bounds ⟨9, 8⟩)).2

/-- The figure is nudged across the origin, and its shape is rounded as before. -/
theorem moves_rigidly_firstShown :
    let frame := Size.bounds ⟨9, 8⟩
    let d : Point := ⟨Coord.clamp (-7), Coord.clamp (-100)⟩
    let p : Point := ⟨Coord.clamp 4, Coord.clamp 3⟩
    let f : Figure := { center := ⟨0.5, 0.5⟩ }
    frame.Displaced d.vec (frame.translate d) ∧ (p + d).vec = p.vec + d.vec ∧
      f.Fits frame ∧ f.Fits (frame.translate d) ∧
      f.contains frame p = true ∧ f.contains (frame.translate d) (p + d) = true ∧
      ∀ g' ∈ (firstShown.nudge 0 d).2.figures, g'.id = 0 → g'.contains (p + d) = true := by
  intro frame d p f
  have hframe : frame.Displaced d.vec (frame.translate d) := by decide
  have hp : (p + d).vec = p.vec + d.vec := by decide
  have hhere : f.Fits frame := by decide +kernel
  have hthere : f.Fits (frame.translate d) := by decide +kernel
  have hhit : f.contains frame p = true := by decide +kernel
  have hreach : firstShown.Reachable := (Reachable.empty.applyAll opening).record _
  obtain ⟨hcontains, -, -, hnudged⟩ := moves_rigidly hframe hp hhere hthere
  obtain ⟨-, -, hall⟩ := hnudged firstShown hreach ⟨0, f, some frame⟩ (by decide +kernel) rfl rfl
  refine ⟨hframe, hp, hhere, hthere, hhit, hcontains.trans hhit, fun g' hg' hid => ?_⟩
  exact (hall g' hg' hid).trans hhit

end Scene

end DrawingBoard

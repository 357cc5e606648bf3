/-
Which size the frame of a figure keeps.

A figure gets the size of the first surface that it is drawn on.  Moves and nudges shift
its frame, and a frame that is shifted past the end of the coordinate space is crushed
there: its corners stop one by one (`figure_crushed`).  What is lost is lost for good,
but that is all that can happen to it.  No history makes a frame larger or turns it
around, and on either axis it has the size of that first surface exactly as long as no
shift has carried it past the end (`size_of_history`).

The frame is what the history since the application of the figure tells, the first
bounds shifted by the offsets in their order.  So the question is one about a rectangle
and a list of offsets.
-/
import DrawingBoard.Proofs.Geometry.Overlap
import DrawingBoard.Proofs.Geometry.Translation
import DrawingBoard.Proofs.Scene.Frames

namespace DrawingBoard

namespace Scene

/-- The bounds of the first snapshot are those of some snapshot. -/
theorem mem_of_firstBounds? {events : List Event} {bounds : Rect}
    (h : firstBounds? events = some bounds) : .record bounds ∈ events := by
  obtain ⟨event, hmem, hbounds⟩ := List.exists_of_findSome?_eq_some h
  cases event with
  | record bounds' => exact Option.some.inj hbounds ▸ hmem
  | apply op => simp [Event.bounds?] at hbounds
  | nudge id d => simp [Event.bounds?] at hbounds

theorem Placed.mem_of_mem_after {events after : List Event} {id : FigureId} {figure : Figure}
    (h : Placed events id figure after) {event : Event} (hevent : event ∈ after) :
    event ∈ events := by
  obtain ⟨⟨before, rfl, -⟩, -⟩ := h
  exact List.mem_append_right _ (List.mem_cons_of_mem _ hevent)

/--
**The frame of a figure never grows, and it is as large as it was at first exactly if it
stays inside the coordinate space.**

Snapshots are taken of surfaces that are not empty.  A figure on the board that is bound
was bound by the first snapshot after it was applied.  On either axis, the frame has kept
the length that the bounds of that snapshot had exactly if all shifts since then would
have left it between the smallest and the largest coordinate; then its width or height is
theirs.  Otherwise it is shorter, but its edges are still in order.
-/
theorem size_of_history (events : List Event)
    (hbounds : ∀ bounds, .record bounds ∈ events → bounds.isEmpty = false) :
    ∀ f ∈ (run empty events).figures, ∀ frame, f.frame = some frame →
      (∃ after bounds, Placed events f.id f.figure after ∧ firstBounds? after = some bounds) ∧
      ∀ after bounds, Placed events f.id f.figure after → firstBounds? after = some bounds →
        let xs := (offsets f.id [] after).map (·.x)
        let ys := (offsets f.id [] after).map (·.y)
        (bounds.xSpan.StaysInside xs → frame.width = bounds.width) ∧
        (bounds.ySpan.StaysInside ys → frame.height = bounds.height) ∧
        bounds.xSpan.Remains xs frame.xSpan ∧ bounds.ySpan.Remains ys frame.ySpan := by
  intro f hf frame hframe
  have hfollows : ∀ after, Placed events f.id f.figure after →
      frameAfter? f.id after = some frame :=
    fun after hplaced => (frame_eq_frameAfter? hf hplaced).symm.trans hframe
  refine ⟨?_, fun after bounds hplaced hfirst => ?_⟩
  · obtain ⟨after, hplaced⟩ := exists_placed (List.mem_map.mpr ⟨f, hf, rfl⟩)
    obtain ⟨bounds, hfirst, -⟩ := Option.map_eq_some_iff.mp (hfollows after hplaced)
    exact ⟨after, bounds, hplaced, hfirst⟩
  · intro xs ys
    have hshifted : (offsets f.id [] after).foldl Rect.translate bounds = frame := by
      have hfollow := hfollows after hplaced
      rw [frameAfter?, hfirst] at hfollow
      exact Option.some.inj hfollow
    have hnonempty := Rect.isEmpty_eq_false_iff.mp
      (hbounds bounds (hplaced.mem_of_mem_after (mem_of_firstBounds? hfirst)))
    have hx : bounds.xSpan.Remains xs frame.xSpan := by
      rw [← hshifted, Rect.xSpan_foldl_translate]
      exact Span.remains_shiftAll hnonempty.1 xs
    have hy : bounds.ySpan.Remains ys frame.ySpan := by
      rw [← hshifted, Rect.ySpan_foldl_translate]
      exact Span.remains_shiftAll hnonempty.2 ys
    refine ⟨fun hinside => ?_, fun hinside => ?_, hx, hy⟩
    · rw [Rect.width_eq_clamp, Rect.width_eq_clamp, hx.kept_iff.mpr hinside]
    · rw [Rect.height_eq_clamp, Rect.height_eq_clamp, hy.kept_iff.mpr hinside]

/-- A figure that is drawn, nudged to the very end of the coordinate space, and beyond the origin
on the way back. -/
def toTheEdge : List Event :=
  [.apply (.figure { center := ⟨0.5, 0.5⟩ }), .record (Size.bounds ⟨8, 4⟩),
    .nudge 0 ⟨Coord.clamp 2147483639, Coord.clamp 2147483643⟩, .record (Size.bounds ⟨2, 2⟩),
    .nudge 0 ⟨Coord.clamp (-2147483647), Coord.clamp (-2147483647)⟩]

/-- Nothing was stopped on the way, so the figure is as large as it was. -/
theorem size_of_history_toTheEdge :
    (∀ bounds, .record bounds ∈ toTheEdge → bounds.isEmpty = false) ∧
      ∃ f ∈ (run empty toTheEdge).figures, ∃ frame, f.frame = some frame ∧
        frame.topLeft = ⟨Coord.clamp (-8), Coord.clamp (-4)⟩ ∧
        frame.width = (Size.bounds ⟨8, 4⟩).width ∧ frame.height = (Size.bounds ⟨8, 4⟩).height := by
  have hall : ∀ event ∈ toTheEdge, ∀ bounds ∈ event.bounds?, bounds.isEmpty = false := by decide
  have hbounds : ∀ bounds, .record bounds ∈ toTheEdge → bounds.isEmpty = false :=
    fun bounds hmem => hall _ hmem bounds rfl
  have hplaced : Placed toTheEdge 0 { center := ⟨0.5, 0.5⟩ } (toTheEdge.drop 1) :=
    ⟨⟨[], rfl, rfl⟩, by simp [toTheEdge]⟩
  have hf := hplaced.tracked.mem
  have hframe : frameAfter? 0 (toTheEdge.drop 1)
      = some ⟨⟨Coord.clamp (-8), Coord.clamp (-4)⟩, ⟨0, 0⟩⟩ := by decide +kernel
  obtain ⟨-, htold⟩ := size_of_history toTheEdge hbounds _ hf _ hframe
  obtain ⟨hx, hy, -, -⟩ := htold _ (Size.bounds ⟨8, 4⟩) hplaced rfl
  exact ⟨hbounds, _, hf, _, hframe, rfl, hx (by decide +kernel), hy (by decide +kernel)⟩

/-- A figure that is drawn, moved beyond the end of the coordinate space, and nudged back. -/
def farAndBack : List Event :=
  [.apply (.figure { center := ⟨0.5, 0.5⟩ }), .record (Size.bounds ⟨8, 8⟩),
    .apply (.move ⟨268435455.875, 0⟩), .record (Size.bounds ⟨8, 8⟩),
    .nudge 0 ⟨Coord.clamp (-2147483647), 0⟩]

/-- One move has crushed the figure, and it does not get its width back. -/
theorem figure_crushed :
    (∀ bounds, .record bounds ∈ farAndBack → bounds.isEmpty = false) ∧
      Placed farAndBack 0 { center := ⟨0.5, 0.5⟩ } (farAndBack.drop 1) ∧
      firstBounds? (farAndBack.drop 1) = some (Size.bounds ⟨8, 8⟩) ∧
      offsets 0 [] (farAndBack.drop 1)
        = [⟨Coord.clamp 2147483647, 0⟩, ⟨Coord.clamp (-2147483647), 0⟩] ∧
      ∃ f ∈ (run empty farAndBack).figures, f.id = 0 ∧
        f.frame = some ⟨⟨0, 0⟩, ⟨0, Coord.clamp 8⟩⟩ ∧
        (Rect.mk ⟨0, 0⟩ ⟨0, Coord.clamp 8⟩).width ≠ (Size.bounds ⟨8, 8⟩).width := by
  have hall : ∀ event ∈ farAndBack, ∀ bounds ∈ event.bounds?, bounds.isEmpty = false := by decide
  have hbounds : ∀ bounds, .record bounds ∈ farAndBack → bounds.isEmpty = false :=
    fun bounds hmem => hall _ hmem bounds rfl
  have hplaced : Placed farAndBack 0 { center := ⟨0.5, 0.5⟩ } (farAndBack.drop 1) :=
    ⟨⟨[], rfl, rfl⟩, by simp [farAndBack]⟩
  have hframe : frameAfter? 0 (farAndBack.drop 1) = some ⟨⟨0, 0⟩, ⟨0, Coord.clamp 8⟩⟩ := by
    decide +kernel
  exact ⟨hbounds, hplaced, rfl, by decide +kernel, _, hplaced.tracked.mem, rfl, hframe, by decide⟩

end Scene

end DrawingBoard

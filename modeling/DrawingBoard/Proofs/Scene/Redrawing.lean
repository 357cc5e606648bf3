/-
When a drag says that the picture has to be drawn again.

Two gestures shift a figure: a drag, and the release that makes the last step of one.  A
drag answers by how much it has shifted the figure, and so tells whether the picture has
changed.  A release answers that the figure was let go of, and that never asks for a new
picture.  So a change goes unannounced exactly if it is the last step of a release
(`redraw_announced_iff`), and such releases there are (`release_unannounced`).

All other cases are read off the outcomes of an event.  A drag by the zero offset is the
one case that answers with a shift and does not ask for a new picture, and it leaves
every frame as it is.
-/
import DrawingBoard.Proofs.Geometry.Translation
import DrawingBoard.Proofs.Scene.Dragging

namespace DrawingBoard

/-! ### Frames -/

namespace Scene

/-- The frames of the figures, in the order of application. -/
def frames (s : Scene) : List (Option Rect) := s.figures.map (·.frame)

/-- A nudge is seen if the figure is bound and the offset takes its frame elsewhere. -/
theorem frames_nudge_eq_iff {s : Scene} {id : FigureId} {d : Point} :
    (s.nudge id d).2.frames = s.frames ↔
      ∀ f ∈ s.figures, f.id = id → ∀ frame, f.frame = some frame → frame.translate d = frame := by
  simp only [frames, nudge, List.map_map, List.map_inj_left, Function.comp_apply]
  refine forall₂_congr fun f _ => ?_
  by_cases hid : f.id = id
  · rw [if_pos hid]
    cases hframe : f.frame with
    | none => simp [PlacedFigure.shift, hframe]
    | some frame => simp [PlacedFigure.shift, hframe, hid]
  · simp [hid]

theorem frames_nudge_zero (s : Scene) (id : FigureId) : (s.nudge id .zero).2.frames = s.frames :=
  frames_nudge_eq_iff.mpr fun _ _ _ frame _ => frame.translate_zero

end Scene

/-! ### Answers and frames -/

namespace Drag

/-- The event is a release, and its last step takes the frame of the figure elsewhere. -/
def LastStepShifts (d : Drag) (event : PointerEvent) (s : Scene) : Prop :=
  ∃ p grab f frame, event.gesture? d.button = some (.release p) ∧ d.grab = some grab ∧
    f ∈ s.figures ∧ f.id = grab.id ∧ f.frame = some frame ∧ frame.translate (p - grab.last) ≠ frame

/-- A last step shifts exactly if the nudge that it makes is seen. -/
theorem lastStepShifts_iff {d : Drag} {event : PointerEvent} {s : Scene} {p : Point} {grab : Grab}
    (hevent : event.gesture? d.button = some (.release p)) (hgrab : d.grab = some grab) :
    d.LastStepShifts event s ↔ (s.nudge grab.id (p - grab.last)).2.frames ≠ s.frames := by
  rw [Ne, Scene.frames_nudge_eq_iff]
  constructor
  · rintro ⟨p', grab', f, frame, hevent', hgrab', hf, hid, hframe, hshift⟩ hall
    obtain rfl : p' = p := by simpa [hevent] using hevent'.symm
    obtain rfl : grab' = grab := by simpa [hgrab] using hgrab'.symm
    exact hshift (hall f hf hid frame hframe)
  · intro hnot
    simp only [not_forall, exists_prop] at hnot
    obtain ⟨f, hf, hid, frame, hframe, hshift⟩ := hnot
    exact ⟨p, grab, f, frame, hevent, hgrab, hf, hid, hframe, hshift⟩

theorem not_lastStepShifts {d : Drag} {event : PointerEvent} {s : Scene}
    (h : ∀ p, event.gesture? d.button ≠ some (.release p)) : ¬ d.LastStepShifts event s := by
  rintro ⟨p, -, -, -, hevent, -⟩
  exact h p hevent

/--
**A change is announced, unless it is the last step of a release.**

For any drag, any board and any event of the pointer: that a changed frame of a figure
makes the answer ask for a new picture fails exactly if the event lets go of a figure
on the board and shifts its frame by doing so.
-/
theorem redraw_announced_iff (d : Drag) (event : PointerEvent) (s : Scene) :
    ((d.handle event s).2.2.frames ≠ s.frames → (d.handle event s).1.needsRedraw = true) ↔
      ¬ d.LastStepShifts event s := by
  have houtcome : Session.Outcome ⟨d, s⟩ (.pointer event)
      (some (d.handle event s).1, ⟨(d.handle event s).2.1, (d.handle event s).2.2⟩) :=
    Session.outcome ⟨d, s⟩ (.pointer event)
  generalize d.handle event s = result at houtcome ⊢
  obtain ⟨response, d', s'⟩ := result
  -- Where no frame changes there is nothing to announce, so no last step may shift anything.
  cases houtcome with
  | unheeded hevent _ =>
      have hnone : event.gesture? d'.button = none := hevent
      exact iff_of_true (absurd rfl) (not_lastStepShifts (by simp [hnone]))
  | @grabs p _ hevent _ | @misses p hevent =>
      have hpress : event.gesture? d.button = some (.press p) := hevent
      exact iff_of_true (absurd rfl) (not_lastStepShifts (by simp [hpress]))
  | idles _ hgrab =>
      refine iff_of_true (absurd rfl) ?_
      rintro ⟨_, grab, -, -, -, hgrab', -⟩
      exact absurd (hgrab.symm.trans hgrab') (by simp)
  | loses _ hgrab hgone =>
      refine iff_of_true (absurd rfl) ?_
      rintro ⟨p, grab, f, -, -, hgrab', hf, hid, -⟩
      obtain rfl := Option.some.inj (hgrab.symm.trans hgrab')
      exact hgone (List.mem_map.mpr ⟨f, hf, hid⟩)
  | @drags p grab hevent hgrab _ =>
      have hdrag : event.gesture? d.button = some (.drag p) := hevent
      refine iff_of_true (fun hchanged => ?_) (not_lastStepShifts (by simp [hdrag]))
      have hway : p - grab.last ≠ .zero := by
        intro hzero
        rw [hzero] at hchanged
        exact hchanged (s.frames_nudge_zero grab.id)
      simpa [DragResponse.needsRedraw, ← Point.isZero_iff] using hway
  | @drops p grab hevent hgrab _ =>
      rw [lastStepShifts_iff hevent hgrab]
      exact ⟨fun hannounced hchanged => Bool.noConfusion (hannounced hchanged),
        fun hsame hchanged => absurd hchanged hsame⟩

/-- A figure in the middle of a small board, which has been drawn. -/
def drawn : Scene :=
  ((Scene.empty.apply (.figure { center := ⟨0.5, 0.5⟩ })).record (Size.bounds ⟨8, 8⟩)).2

/-- The figure is pressed on and let go of two pixels to the right: it has moved, and the answer
does not say so. -/
theorem release_unannounced :
    let held : Drag := { grab := some ⟨0, ⟨Coord.clamp 4, Coord.clamp 3⟩⟩ }
    drawn.Reachable ∧
      ({} : Drag).handle (.pressed .left 4 3) drawn = (.grabbed 0, held, drawn) ∧
      (held.handle (.released .left 6 3) drawn).1.needsRedraw = false ∧
      drawn.frames = [some (Size.bounds ⟨8, 8⟩)] ∧
      (held.handle (.released .left 6 3) drawn).2.2.frames
        = [some ((Size.bounds ⟨8, 8⟩).translate ⟨Coord.clamp 2, 0⟩)] ∧
      (Size.bounds ⟨8, 8⟩).translate ⟨Coord.clamp 2, 0⟩ ≠ Size.bounds ⟨8, 8⟩ := by
  have hreach : drawn.Reachable :=
    (Scene.Reachable.empty.apply (.figure { center := ⟨0.5, 0.5⟩ })).record (Size.bounds ⟨8, 8⟩)
  exact ⟨hreach, by decide +kernel, by decide +kernel, by decide +kernel, by decide +kernel,
    by decide⟩

end Drag

end DrawingBoard

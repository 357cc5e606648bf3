/-
What a snapshot draws, told by the history of the board.

A reset forgets everything but the next id, so what lies on a board is told by the
events since the last reset (`view_run`): the fills and the figures that were applied
since then, in their order, and the last bounding box.  A snapshot draws just that, the
fills first, then the bounding box, then two bars for each figure, and it changes the
board only in that every element has its frame and no move waits
(`draws_history`).

The frame of a figure takes in all waiting moves that have its id among their targets.
The snapshot looks for the id by bisection, and that the search can be trusted is the one
thing that has to be known of the board beyond what its history lists.
-/
import DrawingBoard.Drawing.Sketch
import DrawingBoard.Proofs.Scene.Frames
import Mathlib.Data.List.DropRight

namespace DrawingBoard

namespace Scene

/-! ### Since the last reset -/

/-- The fill that an event applies. -/
def Event.fill? : Event → Option Color
  | .apply (.fill color) => some color
  | _ => none

/-- The bounding box that an event applies. -/
def Event.box? : Event → Option BoundingBox
  | .apply (.boundingBox box) => some box
  | _ => none

/-- The figure that an event applies. -/
def Event.figure? : Event → Option Figure
  | .apply (.figure figure) => some figure
  | _ => none

/-- The events since the last reset in a history. -/
def sinceReset (events : List Event) : List Event := events.rtakeWhile (· ≠ .apply .reset)

theorem sinceReset_concat_reset (events : List Event) :
    sinceReset (events ++ [.apply .reset]) = [] := by
  rw [sinceReset, List.rtakeWhile_concat_neg _ _ _ (by simp)]

theorem sinceReset_concat (events : List Event) {event : Event} (h : event ≠ .apply .reset) :
    sinceReset (events ++ [event]) = sinceReset events ++ [event] := by
  rw [sinceReset, List.rtakeWhile_concat_pos _ _ _ (by simpa using h)]
  rfl

/-- What a reset takes back to the start, and every other event changes as `told` does, is told by
the events since the last reset. -/
theorem view_run {β : Type} (view : Scene → β) (told : List Event → β)
    (hempty : view empty = told []) (hreset : ∀ s : Scene, view (s.apply .reset) = told [])
    (hstep : ∀ (s : Scene) past event, event ≠ .apply .reset → view s = told past →
      view (s.step event) = told (past ++ [event])) (events : List Event) :
    view (run empty events) = told (sinceReset events) := by
  induction events using List.reverseRecOn with
  | nil => exact hempty
  | append_singleton events event ih =>
      rw [run_concat]
      by_cases hevent : event = .apply .reset
      · rw [hevent, sinceReset_concat_reset]
        exact hreset _
      · rw [sinceReset_concat events hevent]
        exact hstep _ _ event hevent ih

theorem backgrounds_step (s : Scene) {event : Event} (h : event ≠ .apply .reset) :
    (s.step event).backgrounds = s.backgrounds ++ event.fill?.toList := by
  cases event with
  | apply op =>
      cases op with
      | fill color => rfl
      | reset => exact absurd rfl h
      | figure _ | boundingBox _ | move _ | update => exact (List.append_nil _).symm
  | record bounds => exact (List.append_nil _).symm
  | nudge id d => exact (List.append_nil _).symm

/-- The figures on the board without their ids and frames. -/
def plainFigures (s : Scene) : List Figure := s.figures.map (·.figure)

theorem plainFigures_step (s : Scene) {event : Event} (h : event ≠ .apply .reset) :
    (s.step event).plainFigures = s.plainFigures ++ event.figure?.toList := by
  have hmembers : ∀ s : Scene, s.plainFigures = s.members.map (·.2) := fun s => by
    rw [plainFigures, members, List.map_map]
    rfl
  rw [hmembers, hmembers, members_step]
  cases event with
  | apply op =>
      cases op with
      | figure figure => exact List.map_append
      | reset => exact absurd rfl h
      | fill _ | boundingBox _ | move _ | update => exact (List.append_nil _).symm
  | record bounds => exact (List.append_nil _).symm
  | nudge id d => exact (List.append_nil _).symm

/-- The bounding box on the board without its frame. -/
def plainBox? (s : Scene) : Option BoundingBox := s.boundingBox.map (·.box)

theorem plainBox?_step (s : Scene) {event : Event} (h : event ≠ .apply .reset) :
    (s.step event).plainBox? = event.box?.or s.plainBox? := by
  rw [plainBox?, boundingBox_step]
  cases event with
  | apply op =>
      cases op with
      | boundingBox box => rfl
      | reset => exact absurd rfl h
      | fill _ | figure _ | move _ | update => rfl
  | record bounds => exact Option.map_map ..
  | nudge id d => rfl

/-- **What lies on a board was applied since the last reset.** -/
theorem plain_run (events : List Event) :
    (run empty events).backgrounds = (sinceReset events).filterMap Event.fill? ∧
      (run empty events).plainBox? = ((sinceReset events).filterMap Event.box?).getLast? ∧
      (run empty events).plainFigures = (sinceReset events).filterMap Event.figure? := by
  refine ⟨view_run backgrounds _ rfl (fun _ => rfl) ?_ events,
    view_run plainBox? (fun past => (past.filterMap Event.box?).getLast?) rfl (fun _ => rfl) ?_
      events,
    view_run plainFigures _ rfl (fun _ => rfl) ?_ events⟩
  · intro s past event hevent h
    rw [backgrounds_step s hevent, h, List.filterMap_append]
    cases hfill : event.fill? <;> simp [hfill]
  · intro s past event hevent h
    rw [plainBox?_step s hevent, h, List.filterMap_append, List.getLast?_append]
    cases hbox : event.box? <;> simp [hbox]
  · intro s past event hevent h
    rw [plainFigures_step s hevent, h, List.filterMap_append]
    cases hfigure : event.figure? <;> simp [hfigure]

/-! ### Frames at a snapshot -/

/-- The shifts of the waiting moves that name a figure as a target, in the order of application,
on a surface with the given bounds. -/
def drains (s : Scene) (bounds : Rect) (id : FigureId) : List Point :=
  (s.moves.filter (id ∈ ·.targets.toList)).map (bounds.scale ·.offset)

/-- The frame in which a snapshot shows a figure: the one it has, or else the bounds of the
surface, shifted by the waiting moves. -/
def shownFrame (s : Scene) (bounds : Rect) (f : PlacedFigure) : Rect :=
  (s.drains bounds f.id).foldl Rect.translate (f.frame.getD bounds)

/-- The frame in which a snapshot shows the bounding box. -/
def boxFrame (s : Scene) (bounds : Rect) : Rect := (s.boundingBox.bind (·.frame)).getD bounds

/-- What a snapshot makes of a board that ids can be trusted with. -/
theorem settle_eq {s : Scene} (h : s.Numbered) (bounds : Rect) :
    s.settle bounds = { s with
      boundingBox := s.boundingBox.map fun b => { b with frame := some (s.boxFrame bounds) }
      figures := s.figures.map fun f => { f with frame := some (s.shownFrame bounds f) }
      moves := [] } := by
  refine Scene.ext rfl ?_ ?_ rfl rfl
  · rw [settle_boundingBox]
    cases hbox : s.boundingBox <;> simp [boxFrame, hbox, PlacedBox.bind]
  · rw [settle_figures]
    refine List.map_congr_left fun f _ => ?_
    -- Bisection finds the moves that name the figure.
    have haimed : PendingMove.aimedAt f.id s.moves
        = (s.moves.filter (f.id ∈ ·.targets.toList)).map (·.offset) := by
      rw [PendingMove.aimedAt]
      refine congrArg _ (List.filter_congr fun m hm => ?_)
      rw [Bool.eq_iff_iff, h.contains_iff_mem hm, decide_eq_true_iff]
    rw [haimed, List.map_map]
    rfl

/-! ### The fills of a snapshot -/

/-- The fills that show figures in their frames: the horizontal bar of each, and then the vertical
one. -/
def crossCalls (shown : List (Figure × Rect)) : List (Rect × Color) :=
  shown.flatMap fun (figure, frame) =>
    [((figure.cross frame).horizontal, figure.color), ((figure.cross frame).vertical, figure.color)]

/-- The fills of a snapshot, of the plain elements and the frames they are shown in. -/
theorem calls_settle {s : Scene} (h : s.Numbered) (bounds : Rect) :
    (s.settle bounds).calls bounds
      = s.backgrounds.map (fun color => (bounds, color)) ++
        ((s.plainBox?.map fun box => (box.area (s.boxFrame bounds), box.color)).toList ++
          crossCalls (s.plainFigures.zip (s.figures.map (s.shownFrame bounds)))) := by
  rw [calls, settle_eq h]
  congr 2
  · rw [plainBox?]
    cases s.boundingBox <;> rfl
  · rw [plainFigures, crossCalls, List.zip_map', List.flatMap_map, List.flatMap_map]
    rfl

/-- **A snapshot draws what was applied since the last reset.**  On any surface that the screen
hands out for the size, the calls are a fill of all of the surface for each background, in the order
of application; then, if a bounding box was applied, a fill of the last one's area; then the bars
of each figure, in the order of application, in the frame that the figure has after all waiting
moves.  The board is left as it was, but every element has its frame and no move waits. -/
theorem draws_history {σ : Type} [Surface σ] {screen : Screen σ} {size : Size} {surface : σ}
    (h : screen.newSurface size = .ok surface) (events : List Event) :
    let s := run empty events
    let bounds := Surface.bounds surface
    let recent := sinceReset events
    let fills := (recent.filterMap Event.fill?).map fun color => (bounds, color)
    let box := (recent.filterMap Event.box?).getLast?.map fun box =>
      (box.area (s.boxFrame bounds), box.color)
    let frames := s.figures.map (s.shownFrame bounds)
    s.snapshot screen size =
      (.ok (Surface.fillAll surface
        (fills ++ (box.toList ++ crossCalls ((recent.filterMap Event.figure?).zip frames)))),
      { s with
        boundingBox := s.boundingBox.map fun b => { b with frame := some (s.boxFrame bounds) }
        figures := s.figures.map fun f => { f with frame := some (s.shownFrame bounds f) }
        moves := [] }) ∧
    s.backgrounds = recent.filterMap Event.fill? ∧
    s.figures.map (·.figure) = recent.filterMap Event.figure? ∧
    s.boundingBox.map (·.box) = (recent.filterMap Event.box?).getLast? := by
  intro s bounds recent fills box frames
  have hnumbered : s.Numbered := numbered_run events
  obtain ⟨hbackgrounds, hbox, hfigures⟩ := plain_run events
  refine ⟨?_, hbackgrounds, hfigures, hbox⟩
  rw [snapshot_eq h, calls_settle hnumbered, settle_eq hnumbered, hbackgrounds, hbox, hfigures]

/-- A sketch has the calls for its fills. -/
theorem fills_fillAll (calls : List (Rect × Color)) :
    ∀ sketch : Sketch, (Surface.fillAll sketch calls).fills = sketch.fills ++ calls := by
  induction calls with
  | nil => intro sketch; exact (List.append_nil _).symm
  | cons call rest ih =>
      intro sketch
      exact (ih _).trans (List.append_assoc ..)

/-- A board that is reset once.  A small surface has shown its first figure and its first box; the
second box replaces that one, and a move waits for both figures. -/
def relaid : List Event :=
  [.apply (.fill Color.white), .apply (.figure { center := ⟨0, 0⟩ }), .apply .reset,
    .apply (.figure { center := ⟨0.5, 0.5⟩, size := ⟨1, 1⟩ }),
    .apply (.boundingBox (.ofCorners ⟨0, 0⟩ ⟨1, 1⟩)), .record (Size.bounds ⟨4, 4⟩),
    .apply (.boundingBox (.ofCorners ⟨0, 0⟩ ⟨0.5, 0.5⟩)),
    .apply (.figure { center := ⟨0.5, 0.5⟩, size := ⟨0.5, 0.5⟩ }), .apply (.move ⟨0.5, 0⟩),
    .apply (.fill Color.grass)]

/-- A larger sketch gets the one fill that is left, the second box, and the bars of both figures,
each four pixels to the right of its frame. -/
theorem draws_history_relaid :
    Sketch.screen.newSurface ⟨8, 8⟩ = .ok ⟨⟨8, 8⟩, []⟩ ∧
      ∃ sketch after, (run empty relaid).snapshot Sketch.screen ⟨8, 8⟩ = (.ok sketch, after) ∧
        after.moves = [] ∧
        sketch.fills.map (fun (area, _) =>
            [area.topLeft.x, area.topLeft.y, area.bottomRight.x, area.bottomRight.y].map
              Coord.toInt)
          = [[0, 0, 8, 8], [0, 0, 4, 4], [4, 0, 8, 2], [5, 0, 7, 4], [6, 2, 10, 4], [7, 2, 9, 6]] ∧
        sketch.fills.map (·.2)
          = [Color.grass, Color.black, Color.coral, Color.coral, Color.coral, Color.coral] := by
  have hscreen : Sketch.screen.newSurface ⟨8, 8⟩ = .ok ⟨⟨8, 8⟩, []⟩ := rfl
  obtain ⟨hsnapshot, -⟩ := draws_history hscreen relaid
  refine ⟨hscreen, _, _, hsnapshot, rfl, ?_, ?_⟩
  · rw [fills_fillAll]
    decide +kernel
  · rw [fills_fillAll]
    decide +kernel

end Scene

end DrawingBoard

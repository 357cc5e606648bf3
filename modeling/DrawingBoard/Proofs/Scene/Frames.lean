/-
Which frame a figure has after any history.

The frame is fixed by what has happened since the figure was applied, and by nothing
else.  The first snapshot gives it its bounds.  From then on it is shifted by the moves
and the nudges in the order in which they take effect: a nudge at once, a move at the
next snapshot, scaled to the bounds of that one, whatever size the figure was bound to
(`offsets`).  What was applied before the figure does not show, and neither does a nudge
before the first snapshot.

The induction goes along the history since the application, with two things known of
the board: the frame is the one that the history tells, and the moves that wait and are
aimed at the figure are those since the last snapshot (`Tracked`).  A move that is
applied joins them because bisection finds the figure among its targets.
-/
import DrawingBoard.Proofs.Scene.Histories

namespace DrawingBoard

namespace Scene

/-! ### What a history tells -/

/-- The bounds of a snapshot. -/
def Event.bounds? : Event → Option Rect
  | .record bounds => some bounds
  | _ => none

/-- The offset of a move. -/
def Event.offset? : Event → Option Relative
  | .apply (.move offset) => some offset
  | _ => none

/-- The bounds of the first snapshot in a history. -/
def firstBounds? (events : List Event) : Option Rect := events.findSome? Event.bounds?

/-- The moves since the last snapshot in a history, in the order of application. -/
def unseenMoves (events : List Event) : List Relative :=
  (events.reverse.takeWhile (·.bounds?.isNone)).reverse.filterMap Event.offset?

/-- By what an event shifts a figure, if `past` is what has happened before since the figure was
applied.  At a snapshot all moves since the one before take effect. -/
def Event.offsets (id : FigureId) (past : List Event) : Event → List Point
  | .record bounds => (unseenMoves past).map bounds.scale
  | .nudge id' d => if id' = id ∧ (firstBounds? past).isSome then [d] else []
  | .apply _ => []

/-- By what a history shifts a figure, in the order of effect. -/
def offsets (id : FigureId) (past : List Event) : List Event → List Point
  | [] => []
  | event :: rest => event.offsets id past ++ offsets id (past ++ [event]) rest

/-- The frame of a figure, if `after` is what has happened since it was applied. -/
def frameAfter? (id : FigureId) (after : List Event) : Option Rect :=
  (firstBounds? after).map fun bounds => (offsets id [] after).foldl Rect.translate bounds

/-! ### One event more -/

theorem firstBounds?_concat (events : List Event) (event : Event) :
    firstBounds? (events ++ [event]) = (firstBounds? events).or event.bounds? := by
  rw [firstBounds?, List.findSome?_append]
  cases hbounds : event.bounds? <;> simp [firstBounds?, hbounds]

theorem firstBounds?_eq_none_iff {events : List Event} :
    firstBounds? events = none ↔ ∀ bounds, .record bounds ∉ events := by
  rw [firstBounds?, List.findSome?_eq_none_iff]
  constructor
  · intro h bounds hmem
    exact Option.some_ne_none bounds (h _ hmem)
  · intro h event hmem
    cases event with
    | record bounds => exact absurd hmem (h bounds)
    | apply op => rfl
    | nudge id d => rfl

theorem unseenMoves_record (events : List Event) (bounds : Rect) :
    unseenMoves (events ++ [.record bounds]) = [] := by
  simp [unseenMoves, Event.bounds?]

theorem unseenMoves_concat (events : List Event) {event : Event} (h : event.bounds? = none) :
    unseenMoves (events ++ [event]) = unseenMoves events ++ event.offset?.toList := by
  cases hoffset : event.offset? <;> simp [unseenMoves, h, hoffset]

theorem offsets_concat (id : FigureId) (event : Event) (events : List Event) :
    ∀ past : List Event, offsets id past (events ++ [event])
      = offsets id past events ++ event.offsets id (past ++ events) := by
  induction events with
  | nil => intro past; simp [offsets]
  | cons first rest ih =>
      intro past
      show first.offsets id past ++ offsets id (past ++ [first]) (rest ++ [event]) = _
      rw [ih, ← List.append_assoc, List.append_assoc past]
      rfl

/-- Before the first snapshot nothing shifts the figure. -/
theorem offsets_eq_nil {id : FigureId} {events : List Event} (h : firstBounds? events = none) :
    offsets id [] events = [] := by
  induction events using List.reverseRecOn with
  | nil => rfl
  | append_singleton events event ih =>
      rw [firstBounds?_concat, Option.or_eq_none_iff] at h
      rw [offsets_concat, ih h.1]
      cases event with
      | record bounds => exact absurd h.2 (Option.some_ne_none bounds)
      | nudge id' d => simp [Event.offsets, h.1]
      | apply op => rfl

/-- How one event changes the frame. -/
theorem frameAfter?_concat (id : FigureId) (past : List Event) (event : Event) :
    frameAfter? id (past ++ [event]) = match event with
      | .record bounds => some (((unseenMoves past).map bounds.scale).foldl Rect.translate
          ((frameAfter? id past).getD bounds))
      | .nudge id' d =>
        if id' = id then (frameAfter? id past).map (·.translate d) else frameAfter? id past
      | .apply _ => frameAfter? id past := by
  unfold frameAfter?
  rw [firstBounds?_concat, offsets_concat, List.nil_append]
  -- Before the first snapshot there is neither a frame nor an offset.
  cases hfirst : firstBounds? past with
  | none =>
      rw [offsets_eq_nil hfirst]
      cases event with
      | record bounds => rfl
      | nudge id' d => simp [Event.bounds?]
      | apply op => rfl
  | some first =>
      cases event with
      | record bounds => simp [Event.offsets, List.foldl_append]
      | nudge id' d =>
          by_cases hid : id' = id
          · simp [Event.offsets, hid, hfirst, List.foldl_append]
          · simp [Event.offsets, hid]
      | apply op => simp [Event.offsets]

/-! ### The board follows the history -/

/-- The figure is on the board as the history `past` since its application tells. -/
structure Tracked (s : Scene) (id : FigureId) (figure : Figure) (past : List Event) : Prop where
  mem : ⟨id, figure, frameAfter? id past⟩ ∈ s.figures
  /-- The waiting moves that are aimed at the figure are those since the last snapshot. -/
  aimed : PendingMove.aimedAt id s.moves = unseenMoves past

theorem mem_figures_apply {s : Scene} {f : PlacedFigure} (h : f ∈ s.figures) {op : Operation}
    (hop : op ≠ .reset) : f ∈ (s.apply op).figures := by
  cases op with
  | figure _ => exact List.mem_append_left _ h
  | reset => exact absurd rfl hop
  | fill _ | boundingBox _ | move _ | update => exact h

/-- A move is aimed at all figures that are on the board. -/
theorem aimedAt_apply {s : Scene} {id : FigureId} (h : s.Numbered) (hid : id ∈ s.ids)
    {op : Operation} (hop : op ≠ .reset) :
    PendingMove.aimedAt id (s.apply op).moves
      = PendingMove.aimedAt id s.moves ++ (Event.apply op).offset?.toList := by
  cases op with
  | move offset =>
      have hascend : (Targets.ofList s.ids).toList.Pairwise (· < ·) := h.ids_pairwise
      have haimed : (Targets.ofList s.ids).contains id = true :=
        (Targets.contains_iff_mem hascend).mpr hid
      simp [PendingMove.aimedAt, Scene.apply, Event.offset?, haimed]
  | reset => exact absurd rfl hop
  | fill _ | figure _ | boundingBox _ | update => exact (List.append_nil _).symm

namespace Tracked

variable {s : Scene} {id : FigureId} {figure : Figure} {past : List Event}

theorem mem_ids (h : Tracked s id figure past) : id ∈ s.ids := List.mem_map.mpr ⟨_, h.mem, rfl⟩

/-- A figure that has just been applied. -/
theorem new (h : s.Numbered) (figure : Figure) :
    Tracked (s.step (.apply (.figure figure))) s.nextId figure [] where
  mem := List.mem_append_right _ (List.mem_singleton.mpr rfl)
  aimed := h.aimedAt_nextId

theorem apply (hnumbered : s.Numbered) (h : Tracked s id figure past) {op : Operation}
    (hop : op ≠ .reset) : Tracked (s.apply op) id figure (past ++ [.apply op]) where
  mem := by
    rw [frameAfter?_concat]
    exact mem_figures_apply h.mem hop
  aimed := by
    rw [aimedAt_apply hnumbered h.mem_ids hop, h.aimed, unseenMoves_concat past rfl]

theorem record (h : Tracked s id figure past) (bounds : Rect) :
    Tracked (s.record bounds).2 id figure (past ++ [.record bounds]) where
  mem := by
    show _ ∈ (s.settle bounds).figures
    rw [frameAfter?_concat, settle_figures, ← h.aimed]
    exact List.mem_map.mpr ⟨_, h.mem, rfl⟩
  aimed := (unseenMoves_record past bounds).symm

theorem nudge (h : Tracked s id figure past) (id' : FigureId) (d : Point) :
    Tracked (s.nudge id' d).2 id figure (past ++ [.nudge id' d]) where
  mem := by
    rw [frameAfter?_concat]
    refine List.mem_map.mpr ⟨_, h.mem, ?_⟩
    by_cases hid : id' = id
    · simp [hid, PlacedFigure.shift]
    · simp [hid, Ne.symm hid]
  aimed := by
    rw [unseenMoves_concat past rfl]
    exact h.aimed.trans (List.append_nil _).symm

theorem step (hnumbered : s.Numbered) (h : Tracked s id figure past) {event : Event}
    (hevent : event ≠ .apply .reset) : Tracked (s.step event) id figure (past ++ [event]) := by
  cases event with
  | apply op => exact h.apply hnumbered fun hop => hevent (congrArg Event.apply hop)
  | record bounds => exact h.record bounds
  | nudge id' d => exact h.nudge id' d

theorem run (events : List Event) :
    ∀ {s : Scene} {past : List Event}, s.Reachable → Tracked s id figure past →
      .apply .reset ∉ events → Tracked (s.run events) id figure (past ++ events) := by
  induction events with
  | nil => intro s past _ h _; rwa [List.append_nil]
  | cons event rest ih =>
      intro s past hreach h hkept
      rw [List.mem_cons, not_or] at hkept
      have hstep := h.step hreach.numbered (Ne.symm hkept.1)
      rw [List.append_cons]
      exact ih (hreach.step event) hstep hkept.2

end Tracked

/-- The board shows a figure as the history since its application tells. -/
theorem Placed.tracked {events : List Event} {id : FigureId} {figure : Figure}
    {after : List Event} (h : Placed events id figure after) :
    Tracked (run empty events) id figure after := by
  obtain ⟨⟨before, rfl, rfl⟩, hkept⟩ := h
  have hreach := Reachable.empty.run before
  rw [run_append]
  exact (Tracked.new hreach.numbered figure).run after (hreach.step _) hkept

/-- No two figures have the same id. -/
theorem Numbered.eq_of_id_eq {s : Scene} (h : s.Numbered) {f g : PlacedFigure}
    (hf : f ∈ s.figures) (hg : g ∈ s.figures) (hid : f.id = g.id) : f = g :=
  List.inj_on_of_nodup_map (h.ids_pairwise.imp Nat.ne_of_lt) hf hg hid

/-- The frame of a figure on the board is what has happened since the figure was applied. -/
theorem frame_eq_frameAfter? {events after : List Event} {f : PlacedFigure}
    (hf : f ∈ (run empty events).figures) (h : Placed events f.id f.figure after) :
    f.frame = frameAfter? f.id after :=
  congrArg PlacedFigure.frame ((numbered_run events).eq_of_id_eq hf h.tracked.mem rfl)

/-! ### The bounding box -/

/-- The bounding box that was set in the middle of a history.  What has happened `after` that
neither replaces nor resets it. -/
structure Boxed (events : List Event) (box : BoundingBox) (after : List Event) : Prop where
  applied : ∃ before, events = before ++ .apply (.boundingBox box) :: after
  kept : .apply .reset ∉ after
  last : ∀ box', .apply (.boundingBox box') ∉ after

theorem Boxed.concat {events after : List Event} {box : BoundingBox} (h : Boxed events box after)
    {event : Event} (hreset : event ≠ .apply .reset)
    (hbox : ∀ box', event ≠ .apply (.boundingBox box')) :
    Boxed (events ++ [event]) box (after ++ [event]) where
  applied := by
    obtain ⟨before, hevents⟩ := h.applied
    exact ⟨before, by rw [hevents, List.append_assoc, List.cons_append]⟩
  kept := by simp [h.kept, Ne.symm hreset]
  last := fun box' => by simp [h.last box', Ne.symm (hbox box')]

/-- The bounding box after an event. -/
theorem boundingBox_step (s : Scene) (event : Event) :
    (s.step event).boundingBox = match event with
      | .apply (.boundingBox box) => some { box }
      | .apply .reset => none
      | .record bounds => s.boundingBox.map (·.bind bounds)
      | _ => s.boundingBox := by
  cases event with
  | apply op => cases op <;> rfl
  | record bounds => rfl
  | nudge id d => rfl

theorem exists_boxed {events : List Event} :
    ∀ {b : PlacedBox}, b ∈ (run empty events).boundingBox → ∃ after, Boxed events b.box after := by
  induction events using List.reverseRecOn with
  | nil => intro b hb; simp [Scene.run, empty] at hb
  | append_singleton events event ih =>
      intro b hb
      rw [run_concat, boundingBox_step] at hb
      split at hb
      · obtain rfl := Option.some.inj hb
        exact ⟨[], ⟨⟨events, rfl⟩, by simp, by simp⟩⟩
      · simp at hb
      · obtain ⟨b', hb', rfl⟩ := Option.map_eq_some_iff.mp hb
        obtain ⟨after, hboxed⟩ := ih hb'
        exact ⟨_, hboxed.concat (by simp) (by simp)⟩
      · rename_i hbox hreset _
        obtain ⟨after, hboxed⟩ := ih hb
        exact ⟨_, hboxed.concat hreset hbox⟩

/-- A bounding box that stays takes the bounds of the first snapshot. -/
theorem boundingBox_step_of_kept {s : Scene} {box : BoundingBox} {past : List Event}
    (h : s.boundingBox = some ⟨box, firstBounds? past⟩) {event : Event}
    (hreset : event ≠ .apply .reset) (hbox : ∀ box', event ≠ .apply (.boundingBox box')) :
    (s.step event).boundingBox = some ⟨box, firstBounds? (past ++ [event])⟩ := by
  rw [boundingBox_step, firstBounds?_concat, h]
  cases event with
  | apply op =>
      cases op with
      | boundingBox box' => exact absurd rfl (hbox box')
      | reset => exact absurd rfl hreset
      | fill _ | figure _ | move _ | update => simp [Event.bounds?]
  | record bounds => cases hfirst : firstBounds? past <;> simp [PlacedBox.bind, Event.bounds?]
  | nudge id d => simp [Event.bounds?]

theorem boundingBox_run_of_kept {box : BoundingBox} (events : List Event) :
    ∀ {s : Scene} {past : List Event}, s.boundingBox = some ⟨box, firstBounds? past⟩ →
      .apply .reset ∉ events → (∀ box', .apply (.boundingBox box') ∉ events) →
      (s.run events).boundingBox = some ⟨box, firstBounds? (past ++ events)⟩ := by
  induction events with
  | nil => intro s past h _ _; rwa [List.append_nil]
  | cons event rest ih =>
      intro s past h hreset hbox
      simp only [List.mem_cons, not_or] at hreset hbox
      have hstep := boundingBox_step_of_kept h (Ne.symm hreset.1) fun box' => Ne.symm (hbox box').1
      rw [List.append_cons]
      exact ih hstep hreset.2 fun box' => (hbox box').2

/-- A bounding box has the frame of the first snapshot since it was set. -/
theorem Boxed.boundingBox {events : List Event} {box : BoundingBox} {after : List Event}
    (h : Boxed events box after) :
    (run empty events).boundingBox = some ⟨box, firstBounds? after⟩ := by
  obtain ⟨⟨before, rfl⟩, hreset, hbox⟩ := h
  rw [run_append]
  have hnew : ((run empty before).step (.apply (.boundingBox box))).boundingBox
      = some ⟨box, firstBounds? []⟩ := rfl
  exact boundingBox_run_of_kept after hnew hreset hbox

/--
**The frames on a board are what its history tells.**

Each figure on the board was applied at some time, under its id, and not reset since.  It
has no frame if there was no snapshot after that.  Otherwise the first one after it
gave it its bounds, and from there it has been shifted, in the order of effect, by each
later move once, at the first snapshot after the move and scaled to that one's bounds,
and by each nudge of its id after the first snapshot, at once.  The bounding box
keeps the bounds of the first snapshot since it was set.
-/
theorem frames_of_history (events : List Event) :
    (∀ f ∈ (run empty events).figures,
      (∃ after, Placed events f.id f.figure after) ∧
      ∀ after, Placed events f.id f.figure after →
        (f.frame = none ↔ ∀ bounds, .record bounds ∉ after) ∧
        ∀ bounds, firstBounds? after = some bounds →
          f.frame = some ((offsets f.id [] after).foldl Rect.translate bounds)) ∧
    ∀ b ∈ (run empty events).boundingBox,
      (∃ after, Boxed events b.box after) ∧
      ∀ after, Boxed events b.box after → b.frame = firstBounds? after := by
  refine ⟨fun f hf => ⟨?_, fun after hplaced => ?_⟩,
    fun b hb => ⟨exists_boxed hb, fun after hboxed => ?_⟩⟩
  · exact exists_placed (List.mem_map.mpr ⟨f, hf, rfl⟩)
  · rw [frame_eq_frameAfter? hf hplaced, frameAfter?]
    refine ⟨?_, fun bounds hfirst => ?_⟩
    · rw [Option.map_eq_none_iff, firstBounds?_eq_none_iff]
    · rw [hfirst, Option.map_some]
  · exact congrArg PlacedBox.frame (Option.some.inj (hb.symm.trans hboxed.boundingBox))

/-- A figure that is bound to a small surface, nudged, and moved on a larger one; the move and the
nudge before do not count. -/
def resized : List Event :=
  [.apply (.move ⟨0.25, 0⟩), .apply (.figure { center := ⟨0.5, 0.5⟩ }),
    .nudge 0 ⟨Coord.clamp 7, 0⟩, .record (Size.bounds ⟨4, 4⟩),
    .apply (.boundingBox (.ofCorners ⟨0, 0⟩ ⟨1, 1⟩)), .apply (.move ⟨0.5, 0⟩),
    .nudge 0 ⟨0, Coord.clamp 1⟩, .record (Size.bounds ⟨8, 8⟩), .record (Size.bounds ⟨2, 2⟩)]

/-- The figure is four pixels wide, and has come four to the right and one down; the bounding box
fills the larger surface. -/
theorem frames_of_history_resized :
    (∃ f ∈ (run empty resized).figures, Placed resized f.id f.figure (resized.drop 2) ∧
      f.frame = some ([⟨0, Coord.clamp 1⟩, ⟨Coord.clamp 4, 0⟩].foldl Rect.translate
        (Size.bounds ⟨4, 4⟩))) ∧
    ∃ b ∈ (run empty resized).boundingBox, Boxed resized b.box (resized.drop 5) ∧
      b.frame = some (Size.bounds ⟨8, 8⟩) := by
  obtain ⟨hfigures, hbox⟩ := frames_of_history resized
  refine ⟨?_, ?_⟩
  · have hplaced : Placed resized 0 { center := ⟨0.5, 0.5⟩ } (resized.drop 2) :=
      ⟨⟨[.apply (.move ⟨0.25, 0⟩)], rfl, rfl⟩, by simp [resized]⟩
    have hoffsets : offsets 0 [] (resized.drop 2)
        = [⟨0, Coord.clamp 1⟩, ⟨Coord.clamp 4, 0⟩] := by decide +kernel
    have hf := hplaced.tracked.mem
    have hframe := ((hfigures _ hf).2 _ hplaced).2 _ rfl
    rw [hoffsets] at hframe
    exact ⟨_, hf, hplaced, hframe⟩
  · have hboxed : Boxed resized (.ofCorners ⟨0, 0⟩ ⟨1, 1⟩) (resized.drop 5) :=
      ⟨⟨resized.take 4, rfl⟩, by simp [resized], by simp [resized]⟩
    have hb := hboxed.boundingBox
    exact ⟨_, hb, hboxed, (hbox _ hb).2 _ hboxed⟩

end Scene

end DrawingBoard

/-
Where a drag leaves the figures on a board.

A drag moves a figure in small steps, each by the way from one position of the pointer to
the next, and while it goes on the board does not stand still: figures are added, snapshots
are taken, and moves take effect.  In the end the steps add up.  The figure that is held has
come by the way from where it was taken to where it was let go, and by the moves that took
effect meanwhile; all other figures have come by the moves alone (`drag_telescopes`).

By what an event shifts a figure is said once, for any figure and any session
(`figure_step`).  The induction along a drag needs of the session only which figure is held
and where the pointer was last (`Holds`); for the other figures, only that none of them is
held (`Spares`).
-/
import DrawingBoard.Proofs.Geometry.Displacement
import DrawingBoard.Proofs.Scene.Dragging
import DrawingBoard.Proofs.Scene.Drawing
import Mathlib.Data.List.Chain

namespace DrawingBoard

/-- The figure after events that may bind it to bounds, and then shift it. -/
def PlacedFigure.carried (f : PlacedFigure) (bounds? : Option Rect) (ds : List Point) :
    PlacedFigure :=
  { f with frame := (f.frame.or bounds?).map (ds.foldl Rect.translate ·) }

theorem PlacedFigure.carried_none_nil (f : PlacedFigure) : f.carried none [] = f := by
  obtain ⟨id, figure, frame⟩ := f
  cases frame <;> rfl

theorem PlacedFigure.carried_of_frame {f : PlacedFigure} {frame : Rect} (h : f.frame = some frame)
    (bounds? : Option Rect) (ds : List Point) :
    f.carried bounds? ds = { f with frame := some (ds.foldl Rect.translate frame) } := by
  rw [carried, h]
  rfl

/-- A figure is carried in two steps, if it is not shifted before it is bound. -/
theorem PlacedFigure.carried_carried {f : PlacedFigure} {bounds? : Option Rect} {ds : List Point}
    (h : f.frame = none → bounds? = none → ds = []) (bounds?' : Option Rect) (ds' : List Point) :
    (f.carried bounds? ds).carried bounds?' ds' = f.carried (bounds?.or bounds?') (ds ++ ds') := by
  obtain ⟨id, figure, frame⟩ := f
  cases frame with
  | some frame => simp [carried]
  | none =>
      cases bounds? with
      | some bounds => simp [carried]
      | none => simp [carried, h rfl rfl]

/-- The position to which a gesture goes on with a drag. -/
def Gesture.target? : Gesture → Option Point
  | .press _ => none
  | .drag p => some p
  | .release p => some p

/-- The shift that an answer tells of. -/
def DragResponse.shift? : DragResponse → Option Point
  | .moved _ d => some d
  | _ => none

namespace Session

/-! ### What shifts a figure -/

/-- The bounds of a snapshot. -/
def Event.bounds? : Event → Option Rect
  | .board e => e.bounds?
  | _ => none

/-- The position to which a drag goes on with an event. -/
def Event.target? (button : Button) (event : Event) : Option Point :=
  (event.gesture? button).bind Gesture.target?

/-- The moves that take effect at an event and name a figure as a target, as shifts. -/
def drained (x : Session) (id : FigureId) : Event → List Point
  | .board (.record bounds) => x.scene.drains bounds id
  | _ => []

/-- The way by which an event pulls a figure that is held. -/
def pull? (x : Session) (id : FigureId) (event : Event) : Option Point :=
  (event.target? x.drag.button).bind fun p =>
    (x.drag.grab.filter (·.id = id)).map fun grab => p - grab.last

/-- By what an event shifts a figure. -/
def shiftsOf (x : Session) (id : FigureId) (event : Event) : List Point :=
  x.drained id event ++ (x.pull? id event).toList

/-- The event leaves it to the drag and to the moves to shift figures, and drops none. -/
structure Event.Gentle (event : Event) : Prop where
  unreset : event ≠ .board (.apply .reset)
  unnudged : ∀ id d, event ≠ .board (.nudge id d)

/-- The event does not take hold of another figure either. -/
structure Event.Quiet (button : Button) (event : Event) : Prop extends event.Gentle where
  unpressed : ∀ p, event.gesture? button ≠ some (.press p)

/-- The event may happen in the middle of a drag. -/
structure Event.Within (button : Button) (event : Event) : Prop extends event.Quiet button where
  unreleased : ∀ p, event.gesture? button ≠ some (.release p)

theorem Event.target?_of_gesture {event : Event} {button : Button} {gesture : Gesture}
    (h : event.gesture? button = some gesture) : event.target? button = gesture.target? := by
  rw [Event.target?, h]
  rfl

theorem Event.target?_of_no_gesture {event : Event} {button : Button}
    (h : event.gesture? button = none) : event.target? button = none := by
  rw [Event.target?, h]
  rfl

theorem Event.quiet_of_release {event : Event} {button : Button} {q : Point}
    (h : event.gesture? button = some (.release q)) : event.Quiet button where
  unreset := Event.ne_board_of_gesture h _
  unnudged := fun _ _ => Event.ne_board_of_gesture h _
  unpressed := by simp [h]

theorem bounds?_of_not_board {event : Event} (h : ∀ e, event ≠ .board e) :
    event.bounds? = none := by
  cases event with
  | board e => exact absurd rfl (h e)
  | pointer _ | gesture _ => rfl

/-- Moves take effect at snapshots only. -/
theorem drained_of_bounds? {x : Session} {event : Event} (h : event.bounds? = none)
    (id : FigureId) : x.drained id event = [] := by
  cases event with
  | board e =>
      cases e with
      | record bounds => simp [Event.bounds?, Scene.Event.bounds?] at h
      | apply _ | nudge _ _ => rfl
  | pointer _ | gesture _ => rfl

theorem pull?_of_no_target {x : Session} {event : Event}
    (h : event.target? x.drag.button = none) (id : FigureId) : x.pull? id event = none := by
  rw [pull?, h]
  rfl

theorem pull?_of_not_held {x : Session} {id : FigureId} (h : ∀ grab ∈ x.drag.grab, grab.id ≠ id)
    (event : Event) : x.pull? id event = none := by
  have hfilter : x.drag.grab.filter (·.id = id) = none := by
    rw [Option.filter_eq_none_iff]
    exact fun grab hgrab => by simpa using h grab hgrab
  rw [pull?, hfilter]
  cases event.target? x.drag.button <;> rfl

theorem pull?_of_target {x : Session} {event : Event} {p : Point} {grab : Grab}
    (hevent : event.target? x.drag.button = some p) (hgrab : x.drag.grab = some grab)
    (id : FigureId) :
    (x.pull? id event).toList = if grab.id = id then [p - grab.last] else [] := by
  rw [pull?, hevent, hgrab]
  by_cases hid : grab.id = id <;> simp [hid, Option.filter]

theorem Event.Continues.ne_board {event : Event} {button : Button} (h : event.Continues button)
    (e : Scene.Event) : event ≠ .board e := by
  obtain ⟨p, h | h⟩ := h
  · exact Event.ne_board_of_gesture h e
  · exact Event.ne_board_of_gesture h e

/-- A nudge carries the figure that it names. -/
theorem mem_nudge {s : Scene} {f : PlacedFigure} (hf : f ∈ s.figures) (id : FigureId) (d : Point) :
    f.carried none (if id = f.id then [d] else []) ∈ (s.nudge id d).2.figures := by
  refine List.mem_map.mpr ⟨f, hf, ?_⟩
  by_cases hid : f.id = id
  · rw [if_pos hid, if_pos hid.symm, PlacedFigure.carried, Option.or_none]
    rfl
  · rw [if_neg hid, if_neg (Ne.symm hid), f.carried_none_nil]

/-- What happens to the board carries a figure by the moves that take effect. -/
theorem figure_step_board {x : Session} (hx : x.scene.Reachable) {e : Scene.Event}
    (hgentle : (Event.board e).Gentle) {f : PlacedFigure} (hf : f ∈ x.scene.figures) :
    f.carried e.bounds? (x.drained f.id (.board e)) ∈ (x.scene.step e).figures := by
  cases e with
  | apply op =>
      have hop : op ≠ .reset := fun hop => hgentle.unreset (by rw [hop])
      exact f.carried_none_nil.symm ▸ Scene.mem_figures_apply hf hop
  | record bounds =>
      show _ ∈ (x.scene.settle bounds).figures
      rw [Scene.settle_eq hx.numbered]
      refine List.mem_map.mpr ⟨f, hf, ?_⟩
      obtain ⟨id, figure, frame⟩ := f
      cases frame <;> rfl
  | nudge id d => exact absurd rfl (hgentle.unnudged id d)

/-- **An event carries each figure by what shifts it.** -/
theorem figure_step {x : Session} (hx : x.scene.Reachable) {event : Event}
    (hgentle : event.Gentle) {f : PlacedFigure} (hf : f ∈ x.scene.figures) :
    f.carried event.bounds? (x.shiftsOf f.id event) ∈ (x.step event).2.scene.figures := by
  have houtcome := x.outcome event
  generalize x.step event = result at houtcome
  -- Unless something happens to the board, only a pull can carry the figure.
  have hpulled : (∀ e, event ≠ .board e) → f.carried event.bounds? (x.shiftsOf f.id event)
      = f.carried none (x.pull? f.id event).toList := fun hboard => by
    rw [shiftsOf, drained_of_bounds? (bounds?_of_not_board hboard), bounds?_of_not_board hboard,
      List.nil_append]
  have hstill : (∀ e, event ≠ .board e) → x.pull? f.id event = none →
      f.carried event.bounds? (x.shiftsOf f.id event) ∈ x.scene.figures := fun hboard hpull => by
    rw [hpulled hboard, hpull, Option.toList_none, f.carried_none_nil]
    exact hf
  cases houtcome with
  | @board e hboard =>
      subst hboard
      have hpull : x.pull? f.id (.board e) = none := rfl
      rw [shiftsOf, hpull, Option.toList_none, List.append_nil]
      exact figure_step_board hx hgentle hf
  | unheeded hnone hboard =>
      exact hstill hboard (pull?_of_no_target (Event.target?_of_no_gesture hnone) _)
  | grabs hpress =>
      exact hstill (Event.ne_board_of_gesture hpress)
        (pull?_of_no_target (Event.target?_of_gesture hpress) _)
  | misses hpress =>
      exact hstill (Event.ne_board_of_gesture hpress)
        (pull?_of_no_target (Event.target?_of_gesture hpress) _)
  | idles hcontinues hgrab =>
      exact hstill hcontinues.ne_board (pull?_of_not_held (by simp [hgrab]) _)
  | drags hdrag hgrab hthere =>
      rw [hpulled (Event.ne_board_of_gesture hdrag),
        pull?_of_target (Event.target?_of_gesture hdrag) hgrab]
      exact mem_nudge hf _ _
  | drops hrelease hgrab hthere =>
      rw [hpulled (Event.ne_board_of_gesture hrelease),
        pull?_of_target (Event.target?_of_gesture hrelease) hgrab]
      exact mem_nudge hf _ _
  | @loses grab hcontinues hgrab hgone =>
      have hother : grab.id ≠ f.id := fun hid => hgone (hid ▸ List.mem_map_of_mem hf)
      exact hstill hcontinues.ne_board (pull?_of_not_held (by simpa [hgrab] using hother) _)

/-! ### Along a history -/

/-- The bounds of the first snapshot. -/
def firstBounds? (events : List Event) : Option Rect := events.findSome? Event.bounds?

/-- The positions to which a drag goes on. -/
def targets (button : Button) (events : List Event) : List Point :=
  events.filterMap (Event.target? button)

/-- The moves that take effect in a history and name a figure as a target, as shifts. -/
def drainedAll (x : Session) (id : FigureId) : List Event → List Point
  | [] => []
  | event :: rest => x.drained id event ++ (x.step event).2.drainedAll id rest

/-- The shifts of a figure that is held, if `last` is where the pointer was last: the moves that
take effect, and the ways from one position of the pointer to the next. -/
def route (x : Session) (id : FigureId) (last : Point) : List Event → List Point
  | [] => []
  | event :: rest =>
    let target := event.target? x.drag.button
    x.drained id event ++ (target.map (· - last)).toList ++
      (x.step event).2.route id (target.getD last) rest

theorem targets_cons (button : Button) (event : Event) (rest : List Event) :
    targets button (event :: rest) = (event.target? button).toList ++ targets button rest := by
  rw [targets, List.filterMap_cons]
  cases event.target? button <;> rfl

theorem firstBounds?_cons (event : Event) (rest : List Event) :
    firstBounds? (event :: rest) = event.bounds?.or (firstBounds? rest) := by
  rw [firstBounds?, List.findSome?_cons]
  cases event.bounds? <;> rfl

theorem reachable_step {x : Session} (h : x.scene.Reachable) (event : Event) :
    (x.step event).2.scene.Reachable := by
  have houtcome := x.outcome event
  generalize x.step event = result at houtcome
  cases houtcome with
  | @board e hboard => exact h.step e
  | drags | drops => exact h.nudge _ _
  | unheeded | grabs | misses | idles | loses => exact h

/-- A route is made of the ways of the pointer and of the moves. -/
theorem sum_route (id : FigureId) (events : List Event) :
    ∀ (x : Session) (last : Point),
      ((x.route id last events).map Point.vec).sum
        = ((last.ways (targets x.drag.button events)).map Point.vec).sum
          + ((x.drainedAll id events).map Point.vec).sum := by
  induction events with
  | nil => intro x last; exact (add_zero _).symm
  | cons event rest ih =>
      intro x last
      rw [route, drainedAll, targets_cons]
      simp only [List.map_append, List.sum_append, ih, button_step]
      cases event.target? x.drag.button with
      | none =>
          simp only [Option.map_none, Option.toList_none, Option.getD_none, List.map_nil,
            List.sum_nil, List.nil_append]
          abel
      | some p =>
          simp only [Option.map_some, Option.toList_some, Option.getD_some, List.map_cons,
            List.map_nil, List.sum_cons, List.sum_nil, List.singleton_append, Point.ways]
          abel

/-! ### The figures that are not held -/

/-- No other figure than `id` is held. -/
structure Spares (x : Session) (id : FigureId) : Prop where
  reachable : x.scene.Reachable
  held : ∀ grab ∈ x.drag.grab, grab.id = id

theorem spares_step {x : Session} {id : FigureId} (h : x.Spares id) {event : Event}
    (hquiet : event.Quiet x.drag.button) : (x.step event).2.Spares id := by
  refine ⟨reachable_step h.reachable event, ?_⟩
  have houtcome := x.outcome event
  generalize x.step event = result at houtcome
  cases houtcome with
  | board | unheeded | idles => exact h.held
  | grabs hpress => exact absurd hpress (hquiet.unpressed _)
  | misses | drops | loses => simp [loose]
  | @drags p grab hdrag hgrab =>
      intro grab' hgrab'
      obtain rfl := Option.some.inj hgrab'
      exact h.held grab hgrab

theorem spares_stateAfter {id : FigureId} (events : List Event) :
    ∀ {x : Session}, x.Spares id → (∀ event ∈ events, event.Quiet x.drag.button) →
      (stateAfter step x events).Spares id := by
  induction events with
  | nil => intro x h _; exact h
  | cons event rest ih =>
      intro x h hquiet
      obtain ⟨hevent, hrest⟩ := List.forall_mem_cons.mp hquiet
      exact ih (spares_step h hevent) (by rwa [button_step])

/-- **A figure that is not held is carried by the moves alone.** -/
theorem figure_run_of_spares {id : FigureId} (events : List Event) :
    ∀ {x : Session}, x.Spares id → (∀ event ∈ events, event.Quiet x.drag.button) →
      ∀ {g : PlacedFigure}, g ∈ x.scene.figures → g.id ≠ id →
        g.carried (firstBounds? events) (x.drainedAll g.id events)
          ∈ (stateAfter step x events).scene.figures := by
  induction events with
  | nil =>
      intro x _ _ g hg _
      exact g.carried_none_nil.symm ▸ hg
  | cons event rest ih =>
      intro x h hquiet g hg hother
      obtain ⟨hevent, hrest⟩ := List.forall_mem_cons.mp hquiet
      have hshifts : x.shiftsOf g.id event = x.drained g.id event := by
        rw [shiftsOf, pull?_of_not_held fun grab hgrab => (h.held grab hgrab).trans_ne hother.symm]
        exact List.append_nil _
      have hstep := figure_step h.reachable hevent.toGentle hg
      have hrun := ih (spares_step h hevent) (by rwa [button_step]) hstep hother
      rw [hshifts, PlacedFigure.carried_carried fun _ hbounds => drained_of_bounds? hbounds _,
        ← firstBounds?_cons] at hrun
      exact hrun

/-! ### The figure that is held -/

/-- The shifts that the answers in a history tell of. -/
def movedBy (x : Session) (events : List Event) : List Point :=
  (transcript step x events).filterMap fun entry => entry.answer.bind DragResponse.shift?

/-- The figure is held, and the pointer was last at `last`. -/
structure Holds (x : Session) (id : FigureId) (last : Point) : Prop where
  reachable : x.scene.Reachable
  grab : x.drag.grab = some ⟨id, last⟩
  mem : id ∈ x.scene.ids

theorem holds_step {x : Session} {id : FigureId} {last : Point} (h : x.Holds id last)
    {event : Event} (hevent : event.Within x.drag.button) :
    (x.step event).2.Holds id ((event.target? x.drag.button).getD last) ∧
      (x.step event).1.bind DragResponse.shift?
        = (event.target? x.drag.button).map (· - last) := by
  have hreachable := reachable_step h.reachable event
  have houtcome := x.outcome event
  generalize x.step event = result at houtcome hreachable ⊢
  cases houtcome with
  | @board e hboard =>
      subst hboard
      have hreset : e ≠ .apply .reset := fun he => hevent.unreset (by rw [he])
      refine ⟨⟨hreachable, h.grab, ?_⟩, rfl⟩
      obtain ⟨figure, hmem⟩ := Scene.mem_ids_iff.mp h.mem
      exact Scene.mem_ids_iff.mpr ⟨figure, Scene.mem_members_step hmem hreset⟩
  | unheeded hnone hboard =>
      rw [Event.target?_of_no_gesture hnone]
      exact ⟨h, rfl⟩
  | grabs hpress => exact absurd hpress (hevent.unpressed _)
  | misses hpress => exact absurd hpress (hevent.unpressed _)
  | idles hcontinues hgrab => simp [h.grab] at hgrab
  | @drags p grab hdrag hgrab hthere =>
      obtain rfl := Option.some.inj (h.grab.symm.trans hgrab)
      rw [Event.target?_of_gesture hdrag]
      refine ⟨⟨hreachable, rfl, ?_⟩, rfl⟩
      exact (x.scene.ids_nudge _ _).symm ▸ h.mem
  | drops hrelease => exact absurd hrelease (hevent.unreleased _)
  | loses hcontinues hgrab hgone =>
      obtain rfl := Option.some.inj (h.grab.symm.trans hgrab)
      exact absurd h.mem hgone

theorem Holds.shiftsOf {x : Session} {id : FigureId} {last : Point} (h : x.Holds id last)
    (event : Event) :
    x.shiftsOf id event
      = x.drained id event ++ ((event.target? x.drag.button).map (· - last)).toList := by
  rw [Session.shiftsOf]
  congr 1
  cases htarget : event.target? x.drag.button with
  | none => rw [pull?_of_no_target htarget]; rfl
  | some p => rw [pull?_of_target htarget h.grab, if_pos rfl]; rfl

theorem Holds.figure_step {x : Session} {id : FigureId} {last : Point} (h : x.Holds id last)
    {event : Event} (hevent : event.Gentle) {f : PlacedFigure} {frame : Rect}
    (hf : f ∈ x.scene.figures) (hid : f.id = id) (hframe : f.frame = some frame) :
    { f with frame := some ((x.drained id event ++
        ((event.target? x.drag.button).map (· - last)).toList).foldl Rect.translate frame) }
      ∈ (x.step event).2.scene.figures := by
  subst hid
  have hstep := Session.figure_step h.reachable hevent hf
  rwa [f.carried_of_frame hframe, h.shiftsOf] at hstep

/-- **The figure that is held is carried along its route**, until it is let go of. -/
theorem figure_run_of_holds {id : FigureId} {release : Event} {q : Point} (events : List Event) :
    ∀ {x : Session} {last : Point}, x.Holds id last →
      (∀ event ∈ events, event.Within x.drag.button) →
      release.gesture? x.drag.button = some (.release q) →
      ∀ {f : PlacedFigure} {frame : Rect}, f ∈ x.scene.figures → f.id = id → f.frame = some frame →
        { f with
            frame := some ((x.route id last (events ++ [release])).foldl Rect.translate frame) }
          ∈ (stateAfter step x (events ++ [release])).scene.figures := by
  induction events with
  | nil =>
      intro x last h _ hrelease f frame hf hid hframe
      rw [List.nil_append, route, route, List.append_nil]
      exact h.figure_step (Event.quiet_of_release hrelease).toGentle hf hid hframe
  | cons event rest ih =>
      intro x last h hwithin hrelease f frame hf hid hframe
      obtain ⟨hevent, hrest⟩ := List.forall_mem_cons.mp hwithin
      have hstep := h.figure_step hevent.toGentle hf hid hframe
      obtain ⟨hholds, -⟩ := holds_step h hevent
      have hrun := ih hholds (by rwa [button_step]) (by rwa [button_step]) hstep hid rfl
      rw [← List.foldl_append] at hrun
      exact hrun

theorem answer_release {x : Session} {id : FigureId} {last : Point} (h : x.Holds id last)
    {release : Event} {q : Point} (hrelease : release.gesture? x.drag.button = some (.release q)) :
    (x.step release).1 = some .released := by
  rw [step_of_gesture hrelease]
  simp only [step, Drag.perform, Drag.release, h.grab]

theorem movedBy_cons (x : Session) (event : Event) (rest : List Event) :
    x.movedBy (event :: rest)
      = ((x.step event).1.bind DragResponse.shift?).toList ++ (x.step event).2.movedBy rest := by
  rw [movedBy, transcript, List.filterMap_cons]
  cases (x.step event).1.bind DragResponse.shift? <;> rfl

/-- **The answers tell of the ways of the pointer**, without the last step. -/
theorem movedBy_eq_ways {id : FigureId} {release : Event} {q : Point} (events : List Event) :
    ∀ {x : Session} {last : Point}, x.Holds id last →
      (∀ event ∈ events, event.Within x.drag.button) →
      release.gesture? x.drag.button = some (.release q) →
        x.movedBy (events ++ [release]) = last.ways (targets x.drag.button events) := by
  induction events with
  | nil =>
      intro x last h _ hrelease
      rw [List.nil_append, movedBy_cons, answer_release h hrelease]
      rfl
  | cons event rest ih =>
      intro x last h hwithin hrelease
      obtain ⟨hevent, hrest⟩ := List.forall_mem_cons.mp hwithin
      have hbutton := x.button_step event
      obtain ⟨hholds, hanswer⟩ := holds_step h hevent
      have hways := ih hholds (by rwa [hbutton]) (by rwa [hbutton])
      rw [List.cons_append, movedBy_cons, hanswer, hways, hbutton, targets_cons]
      cases event.target? x.drag.button <;> rfl

/-! ### A whole drag -/

/-- What a press takes hold of has a frame. -/
theorem step_of_grabbed {x : Session} {press : Event} {p : Point} {id : FigureId}
    (hpress : press.gesture? x.drag.button = some (.press p))
    (hgrabbed : (x.step press).1 = some (.grabbed id)) :
    (x.step press).2 = { x with drag.grab := some ⟨id, p⟩ } ∧
      ∃ f frame, f ∈ x.scene.figures ∧ f.id = id ∧ f.frame = some frame := by
  have houtcome := x.outcome press
  generalize x.step press = result at houtcome hgrabbed
  cases houtcome with
  | @grabs p' f hpress' hunder =>
      obtain rfl := Gesture.press.inj (Option.some.inj (hpress.symm.trans hpress'))
      obtain rfl := DragResponse.grabbed.inj (Option.some.inj hgrabbed)
      have hcovers := List.find?_some hunder
      obtain ⟨frame, hframe⟩ : ∃ frame, f.frame = some frame := by
        cases hframe : f.frame with
        | none => simp [PlacedFigure.contains, hframe] at hcovers
        | some frame => exact ⟨frame, rfl⟩
      exact ⟨rfl, f, frame, List.mem_reverse.mp (List.mem_of_find?_eq_some hunder), rfl, hframe⟩
  | board | unheeded | misses | idles | drags | drops | loses => simp at hgrabbed

theorem holds_of_grabbed {x : Session} (hx : x.scene.Reachable) {press : Event} {p : Point}
    {id : FigureId} (hpress : press.gesture? x.drag.button = some (.press p))
    (hgrabbed : (x.step press).1 = some (.grabbed id)) : (x.step press).2.Holds id p := by
  obtain ⟨hstep, f, -, hf, hid, -⟩ := step_of_grabbed hpress hgrabbed
  rw [hstep]
  exact ⟨hx, rfl, List.mem_map.mpr ⟨f, hf, hid⟩⟩

/-- **The figure that is held comes by the way of the pointer and by the moves**, from where the
pointer was last to where it is let go of. -/
theorem displaced_of_holds {x : Session} {id : FigureId} {last q : Point} (h : x.Holds id last)
    {events : List Event} {release : Event} (hevents : ∀ event ∈ events, event.Within x.drag.button)
    (hrelease : release.gesture? x.drag.button = some (.release q)) {f : PlacedFigure}
    {frame : Rect} (hf : f ∈ x.scene.figures) (hid : f.id = id) (hframe : f.frame = some frame)
    (hchain : (last :: targets x.drag.button events ++ [q]).IsChain Point.Apart)
    (hinside : frame.StaysInside (x.route id last (events ++ [release]))) :
    ∃ final,
      { f with frame := some final } ∈ (stateAfter step x (events ++ [release])).scene.figures ∧
      frame.Displaced
        (q.vec - last.vec + ((x.drainedAll id (events ++ [release])).map Point.vec).sum) final := by
  have htargets : targets x.drag.button (events ++ [release])
      = targets x.drag.button events ++ [q] := by
    rw [targets, List.filterMap_append,
      List.filterMap_cons_some (Event.target?_of_gesture hrelease)]
    rfl
  have hways := Point.sum_ways (targets x.drag.button events ++ [q]) hchain
  rw [List.getLastD_concat] at hways
  refine ⟨_, figure_run_of_holds events h hevents hrelease hf hid hframe, ?_⟩
  rw [← hways, ← htargets, ← sum_route]
  exact hinside.displaced

/--
**A drag comes to the way of the pointer.**

On any board, a press takes hold of a figure.  What follows ends when the button is released; in
between it is not pressed or released, but the pointer moves, operations other than a reset are
applied, and snapshots are taken, in any order.

  * The figure has a frame.  If the ways from one position of the pointer to the next fit in
    coordinates, and no shift on the route of the figure would carry its frame out of the
    coordinate space, then in the end it is displaced by the way from the press to the release,
    and by the moves that took effect meanwhile and name the figure.
  * The shifts that the answers tell of add up to the way from the press to where the pointer was
    before the release.
  * From any moment to any later one, each other figure that is on the board is carried by the
    moves that took effect and name it, and by nothing else; one that was never drawn is bound
    first, by the first snapshot.
-/
theorem drag_telescopes {x : Session} (hx : x.scene.Reachable) {press release : Event}
    {p q : Point} {id : FigureId} {events : List Event}
    (hpress : press.gesture? x.drag.button = some (.press p))
    (hgrabbed : (x.step press).1 = some (.grabbed id))
    (hevents : ∀ event ∈ events, event.Within x.drag.button)
    (hrelease : release.gesture? x.drag.button = some (.release q)) :
    let y := (x.step press).2
    let path := events ++ [release]
    let drags := targets x.drag.button events
    (∃ f frame, f ∈ x.scene.figures ∧ f.id = id ∧ f.frame = some frame ∧
      ((p :: drags ++ [q]).IsChain Point.Apart → frame.StaysInside (y.route id p path) →
        ∃ final, { f with frame := some final } ∈ (stateAfter step y path).scene.figures ∧
          frame.Displaced (q.vec - p.vec + ((y.drainedAll id path).map Point.vec).sum) final)) ∧
    ((p :: drags ++ [q]).IsChain Point.Apart →
      ((y.movedBy path).map Point.vec).sum = (drags.getLastD p).vec - p.vec) ∧
    ∀ before during after, path = before ++ during ++ after →
      let w := stateAfter step y before
      ∀ g ∈ w.scene.figures, g.id ≠ id →
        g.carried (firstBounds? during) (w.drainedAll g.id during)
          ∈ (stateAfter step w during).scene.figures := by
  intro y path drags
  obtain ⟨hy, f, frame, hf, hid, hframe⟩ := step_of_grabbed hpress hgrabbed
  have hholds : y.Holds id p := holds_of_grabbed hx hpress hgrabbed
  -- The press leaves the button and the board as they are.
  have hbutton : y.drag.button = x.drag.button := congrArg (·.drag.button) hy
  have hfigures : y.scene.figures = x.scene.figures := congrArg (·.scene.figures) hy
  have hwithin : ∀ event ∈ events, event.Within y.drag.button := by rwa [hbutton]
  have hrelease' : release.gesture? y.drag.button = some (.release q) := by rwa [hbutton]
  refine ⟨⟨f, frame, hf, hid, hframe, fun hchain hinside => ?_⟩, fun hchain => ?_, ?_⟩
  · exact displaced_of_holds hholds hwithin hrelease' (hfigures ▸ hf) hid hframe
      (by rwa [hbutton]) hinside
  · rw [movedBy_eq_ways events hholds hwithin hrelease', hbutton]
    exact Point.sum_ways _ hchain.left_of_append
  · intro before during after hpath w g hg hother
    have hquiet : ∀ event ∈ path, event.Quiet y.drag.button :=
      List.forall_mem_append.mpr ⟨fun event hevent => (hwithin event hevent).toQuiet,
        List.forall_mem_singleton.mpr (Event.quiet_of_release hrelease')⟩
    rw [hpath] at hquiet
    obtain ⟨hquiet, -⟩ := List.forall_mem_append.mp hquiet
    obtain ⟨hbefore, hduring⟩ := List.forall_mem_append.mp hquiet
    have hspares : w.Spares id :=
      spares_stateAfter before ⟨hholds.reachable, by simp [hholds.grab]⟩ hbefore
    exact figure_run_of_spares during hspares (by rwa [button_stateAfter]) hg hother

def pixel (x y : Int) : Point := ⟨Coord.clamp x, Coord.clamp y⟩

/-- Two figures in the middle of a board, both drawn. -/
def stacked : Session := stateAfter step (opened .left)
  [.board (.apply (.figure { center := ⟨0.5, 0.5⟩ })),
    .board (.apply (.figure { center := ⟨0.5, 0.5⟩ })), .board (.record (Size.bounds ⟨8, 8⟩))]

def pressing : Event := .gesture (.press (pixel 4 3))

/-- A move takes effect on a larger surface, while a figure is dragged. -/
def meanwhile : List Event :=
  [.gesture (.drag (pixel 6 2)), .board (.apply (.move ⟨0.25, 0.5⟩)),
    .board (.record (Size.bounds ⟨16, 16⟩)), .pointer .away, .gesture (.drag (pixel 9 (-1)))]

def releasing : Event := .gesture (.release (pixel 10 0))

/-- The upper figure is dragged, and comes by six and three pixels with the pointer, and by four and
eight with the move; the other one comes by the move alone. -/
theorem drag_telescopes_meanwhile :
    (stacked.step pressing).1 = some (.grabbed 1) ∧
      (∀ event ∈ meanwhile, event.Within stacked.drag.button) ∧
      (pixel 4 3 :: targets stacked.drag.button meanwhile ++ [pixel 10 0]).IsChain Point.Apart ∧
      (Size.bounds ⟨8, 8⟩).StaysInside
        ((stacked.step pressing).2.route 1 (pixel 4 3) (meanwhile ++ [releasing])) ∧
      (∃ (f : PlacedFigure) (final : Rect), f.id = 1 ∧
        { f with frame := some final }
          ∈ (stateAfter step (stacked.step pressing).2 (meanwhile ++ [releasing])).scene.figures ∧
        (Size.bounds ⟨8, 8⟩).Displaced (10, 5) final) ∧
      (((stacked.step pressing).2.movedBy (meanwhile ++ [releasing])).map Point.vec).sum = (5, -4) ∧
      ∀ g ∈ (stacked.step pressing).2.scene.figures, g.id ≠ 1 →
        g.carried (firstBounds? (meanwhile ++ [releasing]))
            ((stacked.step pressing).2.drainedAll g.id (meanwhile ++ [releasing]))
          ∈ (stateAfter step (stacked.step pressing).2
              (meanwhile ++ [releasing])).scene.figures := by
  have hreachable : stacked.scene.Reachable := (follows .left _).reachable
  have hframes : ∀ f ∈ stacked.scene.figures, f.frame = some (Size.bounds ⟨8, 8⟩) := by
    decide +kernel
  have hpress : pressing.gesture? stacked.drag.button = some (.press (pixel 4 3)) := rfl
  have hrelease : releasing.gesture? stacked.drag.button = some (.release (pixel 10 0)) := rfl
  have hgrabbed : (stacked.step pressing).1 = some (.grabbed 1) := by decide +kernel
  have hwithin : ∀ event ∈ meanwhile, event.Within stacked.drag.button := by
    simp only [meanwhile, List.forall_mem_cons]
    refine ⟨?_, ?_, ?_, ?_, ?_, by simp⟩
    all_goals
      exact ⟨⟨⟨by simp, by simp⟩, by simp [Event.gesture?, PointerEvent.gesture?]⟩,
        by simp [Event.gesture?, PointerEvent.gesture?]⟩
  have hchain : (pixel 4 3 :: targets stacked.drag.button meanwhile ++ [pixel 10 0]).IsChain
      Point.Apart := by decide +kernel
  have hinside : (Size.bounds ⟨8, 8⟩).StaysInside
      ((stacked.step pressing).2.route 1 (pixel 4 3) (meanwhile ++ [releasing])) := by
    decide +kernel
  obtain ⟨⟨f, frame, hf, hid, hframe, hheld⟩, hmoved, hothers⟩ :=
    drag_telescopes hreachable hpress hgrabbed hwithin hrelease
  obtain rfl := Option.some.inj (hframe.symm.trans (hframes f hf))
  obtain ⟨final, hfinal, hdisplaced⟩ := hheld hchain hinside
  have hway : (pixel 10 0).vec - (pixel 4 3).vec
      + (((stacked.step pressing).2.drainedAll 1 (meanwhile ++ [releasing])).map Point.vec).sum
        = (10, 5) := by decide +kernel
  rw [hway] at hdisplaced
  have hspared := hothers [] (meanwhile ++ [releasing]) []
    (by rw [List.append_nil, List.nil_append])
  rw [show stateAfter step (stacked.step pressing).2 [] = (stacked.step pressing).2 from
    List.foldl_nil] at hspared
  refine ⟨hgrabbed, hwithin, hchain, hinside, ⟨f, final, hid, hfinal, hdisplaced⟩, ?_, hspared⟩
  rw [hmoved hchain]
  decide +kernel

end Session

end DrawingBoard

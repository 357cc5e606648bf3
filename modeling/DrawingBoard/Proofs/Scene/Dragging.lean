/-
What a drag does to a board.

A drag and the board it works on go on side by side: the pointer is moved and pressed,
and in between anything happens to the board.  What one event can do is said once, case
by case (`outcome`), and every other fact is read off there.

A drag only shifts the figure that it took hold of last, and by the way from where the
pointer was left (`drags_what_it_grabbed`).  The invariant says what the log tells of a
figure that is held: the last grab of the log took hold of it, nothing since then has let
go of it, the last mark of the log is where the pointer was left, and there was no reset
since then, unless the figure is off the board.  The last point rests on ids that are
never given twice.  A figure that was reset away does not come back, so the next gesture
finds it gone, and lets go.
-/
import DrawingBoard.Proofs.Scene.Histories
import DrawingBoard.Proofs.Transcript
import DrawingBoard.Scene.Drag

namespace DrawingBoard

/-! ### Nudges -/

namespace Scene

/-- The boards are the same but for the frame of one figure. -/
def SameButFrame (s t : Scene) (id : FigureId) : Prop :=
  ∃ below f above frame, s.figures = below ++ f :: above ∧ f.id = id ∧
    t = { s with figures := below ++ { f with frame } :: above }

theorem map_shift_of_ne {figures : List PlacedFigure} {id : FigureId}
    (h : ∀ f ∈ figures, f.id ≠ id) (d : Point) :
    figures.map (fun f => if f.id = id then f.shift d else f) = figures := by
  rw [List.map_congr_left fun f hf => if_neg (h f hf), List.map_id']

theorem nudge_of_not_mem {s : Scene} {id : FigureId} (h : id ∉ s.ids) (d : Point) :
    s.nudge id d = (false, s) := by
  have hfigures : ∀ f ∈ s.figures, f.id ≠ id := fun f hf heq =>
    h (List.mem_map.mpr ⟨f, hf, heq⟩)
  refine Prod.ext ?_ (Scene.ext rfl rfl (map_shift_of_ne hfigures d) rfl rfl)
  show s.contains id = false
  rw [← Bool.not_eq_true, contains_iff_mem_ids]
  exact h

theorem Numbered.nudge_sameButFrame {s : Scene} (h : s.Numbered) {id : FigureId}
    (hid : id ∈ s.ids) (d : Point) : s.SameButFrame (s.nudge id d).2 id := by
  obtain ⟨f, hf, rfl⟩ := List.mem_map.mp hid
  obtain ⟨below, above, hfigures⟩ := List.append_of_mem hf
  have hids : s.ids = below.map (·.id) ++ f.id :: above.map (·.id) := by
    rw [Scene.ids, hfigures, List.map_append, List.map_cons]
  have hasc := h.ids_pairwise
  rw [hids, List.pairwise_append, List.pairwise_cons] at hasc
  obtain ⟨-, ⟨habove, -⟩, hbelow⟩ := hasc
  have hbelow' : ∀ g ∈ below, g.id ≠ f.id := fun g hg =>
    Nat.ne_of_lt (hbelow _ (List.mem_map_of_mem hg) _ List.mem_cons_self)
  have habove' : ∀ g ∈ above, g.id ≠ f.id := fun g hg =>
    Nat.ne_of_gt (habove _ (List.mem_map_of_mem hg))
  refine ⟨below, f, above, f.frame.map (·.translate d), hfigures, rfl,
    Scene.ext rfl rfl ?_ rfl rfl⟩
  show s.figures.map _ = _
  rw [hfigures, List.map_append, List.map_cons, if_pos rfl, map_shift_of_ne hbelow',
    map_shift_of_ne habove']
  rfl

end Scene

/-! ### Gestures -/

/-- What an event of the pointer asks of a drag. -/
inductive Gesture where
  | press (p : Point)
  | drag (p : Point)
  | release (p : Point)

/-- The gesture that an event means, if `button` is the one that takes hold. -/
def PointerEvent.gesture? (button : Button) : PointerEvent → Option Gesture
  | .moved x y => some (.drag (Point.ofPointer x y))
  | .pressed b x y => if b = button then some (.press (Point.ofPointer x y)) else none
  | .released b x y => if b = button then some (.release (Point.ofPointer x y)) else none
  | .away => none

namespace Drag

/-- Answers a gesture. -/
def perform (d : Drag) (s : Scene) : Gesture → DragResponse × Drag × Scene
  | .press p => ((d.press p s).1, (d.press p s).2, s)
  | .drag p => d.dragTo p s
  | .release p => d.release p s

theorem handle_eq (d : Drag) (event : PointerEvent) (s : Scene) :
    d.handle event s = match event.gesture? d.button with
      | some gesture => d.perform s gesture
      | none => (.ignored, d, s) := by
  cases event with
  | moved x y => rfl
  | pressed button x y | released button x y =>
      by_cases h : button = d.button
      · simp only [handle, PointerEvent.gesture?, if_pos h]
        rfl
      · simp only [handle, PointerEvent.gesture?, if_neg h]
  | away => rfl

/-- A figure that is on the board is shifted, -/
theorem dragTo_of_mem {d : Drag} {s : Scene} {grab : Grab} (hgrab : d.grab = some grab)
    (hthere : grab.id ∈ s.ids) (p : Point) :
    d.dragTo p s = (.moved grab.id (p - grab.last), { d with grab := some { grab with last := p } },
      (s.nudge grab.id (p - grab.last)).2) := by
  have hnudge : s.nudge grab.id (p - grab.last)
      = (true, (s.nudge grab.id (p - grab.last)).2) :=
    Prod.ext (Scene.contains_iff_mem_ids.mpr hthere) rfl
  simp only [dragTo, hgrab]
  rw [hnudge]

/-- and one that is not is let go of. -/
theorem dragTo_of_not_mem {d : Drag} {s : Scene} {grab : Grab} (hgrab : d.grab = some grab)
    (hgone : grab.id ∉ s.ids) (p : Point) :
    d.dragTo p s = (.released, { d with grab := none }, s) := by
  simp only [dragTo, hgrab, Scene.nudge_of_not_mem hgone]

end Drag

/-! ### Sessions -/

/-- A drag, and the board it works on. -/
structure Session where
  drag : Drag
  scene : Scene
deriving DecidableEq

namespace Session

/-- A session that begins with an empty board and nothing held. -/
def opened (button : Button) : Session := ⟨{ button }, .empty⟩

/-- What can happen in a session: events of the pointer, gestures that are made without
a pointer, and whatever else happens to the board. -/
inductive Event where
  | pointer (event : PointerEvent)
  | gesture (gesture : Gesture)
  | board (event : Scene.Event)

def Event.gesture? (button : Button) : Event → Option Gesture
  | .pointer e => e.gesture? button
  | .gesture g => some g
  | .board _ => none

theorem Event.ne_board_of_gesture {event : Event} {button : Button} {gesture : Gesture}
    (h : event.gesture? button = some gesture) (e : Scene.Event) : event ≠ .board e := by
  rintro rfl
  simp [Event.gesture?] at h

/-- The gesture goes on with a drag, or ends it. -/
def Event.Continues (event : Event) (button : Button) : Prop :=
  ∃ p, event.gesture? button = some (.drag p) ∨ event.gesture? button = some (.release p)

/-- What is answered to an event of the pointer, and the session afterwards.  The board answers
nothing. -/
def step (x : Session) : Event → Option DragResponse × Session
  | .pointer event =>
    let (response, drag, scene) := x.drag.handle event x.scene
    (some response, ⟨drag, scene⟩)
  | .gesture gesture =>
    let (response, drag, scene) := x.drag.perform x.scene gesture
    (some response, ⟨drag, scene⟩)
  | .board event => (none, { x with scene := x.scene.step event })

/-- The session when what was held has been let go of. -/
def loose (x : Session) : Session := { x with drag := { x.drag with grab := none } }

/-- All that an event can do. -/
inductive Outcome (x : Session) (event : Event) : Option DragResponse × Session → Prop
  | board {e : Scene.Event} (hevent : event = .board e) :
      Outcome x event (none, { x with scene := x.scene.step e })
  | unheeded (hevent : event.gesture? x.drag.button = none) (hboard : ∀ e, event ≠ .board e) :
      Outcome x event (some .ignored, x)
  | grabs {p : Point} {f : PlacedFigure} (hevent : event.gesture? x.drag.button = some (.press p))
      (hunder : x.scene.figureUnder? p = some f) :
      Outcome x event (some (.grabbed f.id), { x with drag.grab := some ⟨f.id, p⟩ })
  | misses {p : Point} (hevent : event.gesture? x.drag.button = some (.press p)) :
      Outcome x event (some .ignored, x.loose)
  | idles (hevent : event.Continues x.drag.button) (hgrab : x.drag.grab = none) :
      Outcome x event (some .ignored, x)
  | drags {p : Point} {grab : Grab} (hevent : event.gesture? x.drag.button = some (.drag p))
      (hgrab : x.drag.grab = some grab) (hthere : grab.id ∈ x.scene.ids) :
      Outcome x event (some (.moved grab.id (p - grab.last)),
        ⟨{ x.drag with grab := some { grab with last := p } },
          (x.scene.nudge grab.id (p - grab.last)).2⟩)
  | drops {p : Point} {grab : Grab} (hevent : event.gesture? x.drag.button = some (.release p))
      (hgrab : x.drag.grab = some grab) (hthere : grab.id ∈ x.scene.ids) :
      Outcome x event (some .released,
        ⟨x.loose.drag, (x.scene.nudge grab.id (p - grab.last)).2⟩)
  | loses {grab : Grab} (hevent : event.Continues x.drag.button)
      (hgrab : x.drag.grab = some grab) (hgone : grab.id ∉ x.scene.ids) :
      Outcome x event (some .released, x.loose)

/-- An event means its gesture. -/
theorem step_of_gesture {x : Session} {event : Event} {gesture : Gesture}
    (hevent : event.gesture? x.drag.button = some gesture) :
    x.step event = x.step (.gesture gesture) := by
  cases event with
  | pointer e =>
      simp only [Event.gesture?] at hevent
      simp only [step, Drag.handle_eq, hevent]
  | gesture g => rw [Option.some.inj hevent]
  | board e => simp [Event.gesture?] at hevent

/-- The events without one are those of the board, and those that are not heeded. -/
theorem step_of_no_gesture {x : Session} {event : Event}
    (hevent : event.gesture? x.drag.button = none) :
    (∃ e, event = .board e) ∨ (∀ e, event ≠ .board e) ∧ x.step event = (some .ignored, x) := by
  cases event with
  | pointer e =>
      simp only [Event.gesture?] at hevent
      refine .inr ⟨by simp, ?_⟩
      simp only [step, Drag.handle_eq, hevent]
  | gesture g => simp [Event.gesture?] at hevent
  | board e => exact .inl ⟨e, rfl⟩

/-- A drag cannot go on if nothing is held, -/
theorem step_of_idle {x : Session} {event : Event} (hgrab : x.drag.grab = none)
    (hevent : event.Continues x.drag.button) : x.step event = (some .ignored, x) := by
  obtain ⟨p, hevent | hevent⟩ := hevent
  · rw [step_of_gesture hevent]
    simp only [step, Drag.perform, Drag.dragTo, hgrab]
  · rw [step_of_gesture hevent]
    simp only [step, Drag.perform, Drag.release, hgrab]

/-- and it ends if the figure is gone. -/
theorem step_of_gone {x : Session} {event : Event} {grab : Grab} (hgrab : x.drag.grab = some grab)
    (hgone : grab.id ∉ x.scene.ids) (hevent : event.Continues x.drag.button) :
    x.step event = (some .released, x.loose) := by
  obtain ⟨p, hevent | hevent⟩ := hevent
  · rw [step_of_gesture hevent]
    simp only [step, Drag.perform, Drag.dragTo_of_not_mem hgrab hgone]
    rfl
  · rw [step_of_gesture hevent]
    simp only [step, Drag.perform, Drag.release, hgrab, Drag.dragTo_of_not_mem hgrab hgone]
    rfl

theorem outcome_press {x : Session} {event : Event} {p : Point}
    (hevent : event.gesture? x.drag.button = some (.press p)) :
    Outcome x event (x.step event) := by
  rw [step_of_gesture hevent]
  simp only [step, Drag.perform, Drag.press]
  cases hunder : x.scene.figureUnder? p with
  | some f => exact .grabs hevent hunder
  | none => exact .misses hevent

theorem outcome_continues {x : Session} {event : Event} (hevent : event.Continues x.drag.button) :
    Outcome x event (x.step event) := by
  cases hgrab : x.drag.grab with
  | none => rw [step_of_idle hgrab hevent]; exact .idles hevent hgrab
  | some grab =>
      by_cases hthere : grab.id ∈ x.scene.ids
      · obtain ⟨p, hevent | hevent⟩ := hevent
        · rw [step_of_gesture hevent]
          simp only [step, Drag.perform, Drag.dragTo_of_mem hgrab hthere]
          exact .drags hevent hgrab hthere
        · rw [step_of_gesture hevent]
          simp only [step, Drag.perform, Drag.release, hgrab, Drag.dragTo_of_mem hgrab hthere]
          exact .drops hevent hgrab hthere
      · rw [step_of_gone hgrab hthere hevent]
        exact .loses hevent hgrab hthere

theorem outcome (x : Session) (event : Event) : Outcome x event (x.step event) := by
  cases hgesture : event.gesture? x.drag.button with
  | some gesture =>
      cases gesture with
      | press p => exact outcome_press hgesture
      | drag p => exact outcome_continues ⟨p, .inl hgesture⟩
      | release p => exact outcome_continues ⟨p, .inr hgesture⟩
  | none =>
      rcases step_of_no_gesture hgesture with ⟨e, rfl⟩ | ⟨hboard, hstep⟩
      · exact .board rfl
      · rw [hstep]
        exact .unheeded hgesture hboard

theorem button_step (x : Session) (event : Event) :
    (x.step event).2.drag.button = x.drag.button := by
  have houtcome := x.outcome event
  generalize x.step event = result at houtcome
  cases houtcome <;> rfl

theorem button_stateAfter (events : List Event) :
    ∀ x : Session, (stateAfter step x events).drag.button = x.drag.button := by
  induction events with
  | nil => intro x; rfl
  | cons event rest ih => intro x; exact (ih (x.step event).2).trans (x.button_step event)

/-! ### What the log tells -/

/-- What happened in a session, and what was answered. -/
abbrev LogEntry := Entry Session Event (Option DragResponse)

abbrev Log := List LogEntry

/-- The last grab of the log took hold of the figure `id`, and `since` is what came after. -/
structure LastGrab (log : Log) (id : FigureId) (since : Log) : Prop where
  taken : ∃ before entry, log = before ++ entry :: since ∧ entry.answer = some (.grabbed id)
  last : ∀ entry ∈ since, ∀ other, entry.answer ≠ some (.grabbed other)

/-- In the log nothing is let go of, and the button is not pressed. -/
structure Undisturbed (button : Button) (log : Log) : Prop where
  held : ∀ entry ∈ log, entry.answer ≠ some .released
  alone : ∀ entry ∈ log, ∀ p, entry.input.gesture? button ≠ some (.press p)

/-- Where an entry leaves the pointer, if it is a press or shifts a figure. -/
def mark? (button : Button) (entry : LogEntry) : Option Point :=
  match entry.input.gesture? button, entry.answer with
  | some (.press p), _ => some p
  | some (.drag p), some (.moved _ _) => some p
  | _, _ => none

/-- Where the last press, or the last move that shifted a figure, left the pointer. -/
def lastMark? (button : Button) (log : Log) : Option Point :=
  (log.filterMap (mark? button)).getLast?

theorem lastMark?_concat (button : Button) (log : Log) (entry : LogEntry) :
    lastMark? button (log ++ [entry]) = (mark? button entry).or (lastMark? button log) := by
  simp only [lastMark?, List.filterMap_append, List.getLast?_append]
  cases hmark : mark? button entry with
  | none => simp [hmark]
  | some p => simp [hmark]

/-! ### The figure that is held -/

/-- What the log tells of a figure that is held. -/
structure Holding (button : Button) (log : Log) (s : Scene) (grab : Grab) (since : Log) : Prop
    extends LastGrab log grab.id since where
  given : grab.id < s.nextId
  mark : lastMark? button log = some grab.last
  undisturbed : Undisturbed button since
  /-- A reset since then has taken the figure off the board. -/
  unreset : grab.id ∈ s.ids → ∀ entry ∈ since, entry.input ≠ .board (.apply .reset)

theorem Holding.new {button : Button} (log : Log) {s : Scene} {p : Point} {f : PlacedFigure}
    (hs : s.Numbered) (hunder : s.figureUnder? p = some f) {entry : LogEntry}
    (hevent : entry.input.gesture? button = some (.press p))
    (hanswer : entry.answer = some (.grabbed f.id)) :
    Holding button (log ++ [entry]) s ⟨f.id, p⟩ [] where
  taken := ⟨log, entry, rfl, hanswer⟩
  last := by simp
  given := by
    have hmem : f ∈ s.figures := List.mem_reverse.mp (List.mem_of_find?_eq_some hunder)
    exact hs.lt_nextId (List.mem_map_of_mem hmem)
  mark := by simp [lastMark?_concat, mark?, hevent]
  undisturbed := ⟨by simp, by simp⟩
  unreset := by simp

/-- One more entry, by which the figure stays held. -/
theorem Holding.concat {button : Button} {log since : Log} {s t : Scene} {grab : Grab}
    {last : Point} (h : Holding button log s grab since) {entry : LogEntry}
    (hgiven : s.nextId ≤ t.nextId)
    (hmark : (mark? button entry).or (some grab.last) = some last)
    (hgrabbed : ∀ id, entry.answer ≠ some (.grabbed id)) (hheld : entry.answer ≠ some .released)
    (halone : ∀ p, entry.input.gesture? button ≠ some (.press p))
    (hunreset : grab.id ∈ t.ids → grab.id ∈ s.ids ∧ entry.input ≠ .board (.apply .reset)) :
    Holding button (log ++ [entry]) t { grab with last } (since ++ [entry]) where
  taken := by
    obtain ⟨before, first, hlog, hanswer⟩ := h.taken
    exact ⟨before, first, by rw [hlog, List.append_assoc, List.cons_append], hanswer⟩
  last := List.forall_mem_append.mpr ⟨h.last, List.forall_mem_singleton.mpr hgrabbed⟩
  given := Nat.lt_of_lt_of_le h.given hgiven
  mark := by rw [lastMark?_concat, h.mark, hmark]
  undisturbed :=
    ⟨List.forall_mem_append.mpr ⟨h.undisturbed.held, List.forall_mem_singleton.mpr hheld⟩,
      List.forall_mem_append.mpr ⟨h.undisturbed.alone, List.forall_mem_singleton.mpr halone⟩⟩
  unreset := fun hthere => List.forall_mem_append.mpr
    ⟨h.unreset (hunreset hthere).1, List.forall_mem_singleton.mpr (hunreset hthere).2⟩

/-- **What the log of a session tells of it.** -/
structure Follows (button : Button) (log : Log) (x : Session) : Prop where
  takes : x.drag.button = button
  reachable : x.scene.Reachable
  holding : ∀ grab, x.drag.grab = some grab → ∃ since, Holding button log x.scene grab since

theorem follows_opened (button : Button) : Follows button [] (opened button) where
  takes := rfl
  reachable := .empty
  holding := by simp [opened]

theorem follows_step {button : Button} {log : Log} {x : Session} (h : Follows button log x)
    (event : Event) :
    Follows button (log ++ [⟨event, (x.step event).1, (x.step event).2⟩]) (x.step event).2 := by
  obtain ⟨rfl, hreachable, hholding⟩ := h
  have houtcome := x.outcome event
  generalize x.step event = result at houtcome ⊢
  cases houtcome with
  | @board e hevent =>
      subst hevent
      refine ⟨rfl, hreachable.step e, fun grab hgrab => ?_⟩
      obtain ⟨since, hsince⟩ := hholding grab hgrab
      refine ⟨_, hsince.concat (x.scene.nextId_le_step e) rfl nofun nofun
        (by simp [Event.gesture?]) fun hthere => ?_⟩
      -- A figure that is added gets another id, since this one was given before.
      obtain ⟨hold, hreset⟩ := Scene.mem_ids_of_step hsince.given hthere
      exact ⟨hold, by simpa using hreset⟩
  | unheeded hevent hboard =>
      refine ⟨rfl, hreachable, fun grab hgrab => ?_⟩
      obtain ⟨since, hsince⟩ := hholding grab hgrab
      refine ⟨_, hsince.concat (Nat.le_refl _) ?_ nofun nofun (by simp [hevent])
        fun hthere => ⟨hthere, hboard _⟩⟩
      simp [mark?, hevent]
  | grabs hevent hunder =>
      refine ⟨rfl, hreachable, fun grab hgrab => ?_⟩
      obtain rfl := Option.some.inj hgrab
      exact ⟨[], .new log hreachable.numbered hunder hevent rfl⟩
  | misses hevent => exact ⟨rfl, hreachable, by simp [loose]⟩
  | idles hevent hgrab => exact ⟨rfl, hreachable, by simp [hgrab]⟩
  | @drags p grab hevent hgrab hthere =>
      refine ⟨rfl, hreachable.nudge _ _, fun grab' hgrab' => ?_⟩
      obtain rfl := Option.some.inj hgrab'
      obtain ⟨since, hsince⟩ := hholding grab hgrab
      refine ⟨_, hsince.concat (Nat.le_refl _) ?_ nofun nofun (by simp [hevent])
        fun _ => ⟨hthere, Event.ne_board_of_gesture hevent _⟩⟩
      simp [mark?, hevent]
  | drops hevent hgrab hthere => exact ⟨rfl, hreachable.nudge _ _, by simp [loose]⟩
  | loses hevent hgrab hgone => exact ⟨rfl, hreachable, by simp [loose]⟩

theorem follows (button : Button) (events : List Event) :
    Follows button (transcript step (opened button) events)
      (stateAfter step (opened button) events) :=
  transcript_keeps (I := Follows button) (fun _ _ event h => follows_step h event) events
    (follows_opened button)

/-- **An event of the pointer shifts the figure of the last grab, or nothing.** -/
theorem Follows.scene_step {button : Button} {log : Log} {x : Session}
    (h : Follows button log x) {event : Event} (hboard : ∀ e, event ≠ .board e) :
    (x.step event).2.scene = x.scene ∨
      ∃ id since, LastGrab log id since ∧ x.scene.SameButFrame (x.step event).2.scene id := by
  have houtcome := x.outcome event
  generalize x.step event = result at houtcome ⊢
  cases houtcome with
  | board hevent => exact absurd hevent (hboard _)
  | unheeded | grabs | misses | idles | loses => exact .inl rfl
  | @drags p grab hevent hgrab hthere | @drops p grab hevent hgrab hthere =>
      obtain ⟨since, hsince⟩ := h.holding grab hgrab
      exact .inr ⟨grab.id, since, hsince.toLastGrab,
        h.reachable.numbered.nudge_sameButFrame hthere _⟩

theorem Follows.moved {button : Button} {log : Log} {x : Session} (h : Follows button log x)
    {event : Event} {id : FigureId} {d : Point} (hanswer : (x.step event).1 = some (.moved id d)) :
    ∃ p last since, event.gesture? button = some (.drag p) ∧ LastGrab log id since ∧
      Undisturbed button since ∧ (∀ entry ∈ since, entry.input ≠ .board (.apply .reset)) ∧
      lastMark? button log = some last ∧ d = p - last := by
  obtain ⟨rfl, -, hholding⟩ := h
  have houtcome := x.outcome event
  generalize x.step event = result at houtcome hanswer
  cases houtcome with
  | @drags p grab hevent hgrab hthere =>
      obtain ⟨rfl, rfl⟩ := DragResponse.moved.inj (Option.some.inj hanswer)
      obtain ⟨since, hsince⟩ := hholding grab hgrab
      exact ⟨p, grab.last, since, hevent, hsince.toLastGrab, hsince.undisturbed,
        hsince.unreset hthere, hsince.mark, rfl⟩
  | board | unheeded | grabs | misses | idles | drops | loses => simp at hanswer

/-! ### When nothing can be dragged -/

/-- Without a gesture the drag stays as it is, whatever happens to the board. -/
theorem stateAfter_of_no_gesture (events : List Event) :
    ∀ {x : Session}, (∀ event ∈ events, event.gesture? x.drag.button = none) →
      ∃ history, stateAfter step x events = { x with scene := x.scene.run history } := by
  induction events with
  | nil => intro x _; exact ⟨[], rfl⟩
  | cons event rest ih =>
      intro x h
      obtain ⟨hevent, hrest⟩ := List.forall_mem_cons.mp h
      have hstep : ∃ first, (x.step event).2 = { x with scene := x.scene.run first } := by
        rcases step_of_no_gesture hevent with ⟨e, rfl⟩ | ⟨-, hstep⟩
        · exact ⟨[e], rfl⟩
        · exact ⟨[], by rw [hstep]; rfl⟩
      obtain ⟨first, hfirst⟩ := hstep
      obtain ⟨history, hhistory⟩ := ih (x := (x.step event).2) (by rw [hfirst]; exact hrest)
      exact ⟨first ++ history, by rw [stateAfter_cons, hhistory, hfirst, Scene.run_append]⟩

/-- **A figure that is reset away is let go of by the next gesture**, unless that is a press. -/
theorem step_after_reset {x : Session} {grab : Grab} (hgrab : x.drag.grab = some grab)
    (hgiven : grab.id < x.scene.nextId) {rest : List Event}
    (hrest : ∀ event ∈ rest, event.gesture? x.drag.button = none) {event : Event}
    (hevent : event.Continues x.drag.button) :
    (stateAfter step (x.step (.board (.apply .reset))).2 rest).step event
      = (some .released, (stateAfter step (x.step (.board (.apply .reset))).2 rest).loose) := by
  obtain ⟨history, hhistory⟩ :=
    stateAfter_of_no_gesture (x := (x.step (.board (.apply .reset))).2) rest hrest
  rw [hhistory]
  have hgone : grab.id ∉ ((x.scene.apply .reset).run history).ids :=
    Scene.not_mem_ids_run history hgiven (by simp [Scene.apply, Scene.ids])
  exact step_of_gone hgrab hgone hevent

theorem grab_of_released {x : Session} {event : Event}
    (h : (x.step event).1 = some .released) : (x.step event).2.drag.grab = none := by
  have houtcome := x.outcome event
  generalize x.step event = result at houtcome h ⊢
  cases houtcome with
  | drops | loses => rfl
  | board | unheeded | grabs | misses | idles | drags => simp at h

/-- As long as nothing is taken hold of, nothing is held. -/
theorem stateAfter_of_no_grab (events : List Event) :
    ∀ {x : Session}, x.drag.grab = none →
      (∀ entry ∈ transcript step x events, ∀ id, entry.answer ≠ some (.grabbed id)) →
        (stateAfter step x events).drag.grab = none := by
  induction events with
  | nil => intro x h _; exact h
  | cons event rest ih =>
      intro x h hanswers
      obtain ⟨hfirst, hrest⟩ := List.forall_mem_cons.mp hanswers
      refine ih ?_ hrest
      show (x.step event).2.drag.grab = none
      have houtcome := x.outcome event
      generalize x.step event = result at houtcome hfirst ⊢
      cases houtcome with
      | board | unheeded | idles => exact h
      | misses | drops | loses => rfl
      | grabs => exact absurd rfl (hfirst _)
      | drags hevent hgrab => simp [h] at hgrab

/--
**A drag shifts no other figure than the one that it took hold of.**

A drag and a board begin with nothing.  After any history of events of the pointer,
mixed with anything that can happen to the board:

  * An event of the pointer leaves the board as it is, but for the frame of one figure,
    which is the one that the last grab took hold of.
  * If the answer is that a figure was shifted, that is the figure of the last grab.
    Since then there was no reset, nothing was let go of, and the button was not pressed.
    The figure was shifted by the way from where the last press, or the last shift,
    left the pointer.
  * If the board is reset while a figure is held, the next gesture that goes on with the
    drag lets go and leaves the board as it is, whatever is put on the board and drawn
    before that.
  * When a figure was let go of, no gesture that goes on with a drag does anything until
    a figure is taken hold of again.
-/
theorem drags_what_it_grabbed (button : Button) (events : List Event) :
    let log : Log := transcript step (opened button) events
    let x := stateAfter step (opened button) events
    (∀ event, (∀ e, event ≠ .board e) → (x.step event).2.scene = x.scene ∨
      ∃ id since, LastGrab log id since ∧ x.scene.SameButFrame (x.step event).2.scene id) ∧
    (∀ event id d, (x.step event).1 = some (.moved id d) →
      ∃ p last since, event.gesture? button = some (.drag p) ∧ LastGrab log id since ∧
        Undisturbed button since ∧ (∀ entry ∈ since, entry.input ≠ .board (.apply .reset)) ∧
        lastMark? button log = some last ∧ d = p - last) ∧
    (∀ id rest event, x.drag.grabbed = some id →
      (∀ e ∈ rest, e.gesture? button = none) → event.Continues button →
        let y := stateAfter step (x.step (.board (.apply .reset))).2 rest
        y.step event = (some .released, y.loose)) ∧
    (∀ event rest later, (x.step event).1 = some .released →
      (∀ entry ∈ transcript step (x.step event).2 rest, ∀ id,
        entry.answer ≠ some (.grabbed id)) → later.Continues button →
          let y := stateAfter step (x.step event).2 rest
          y.step later = (some .ignored, y)) := by
  intro log x
  have hfollows : Follows button log x := follows button events
  refine ⟨fun event hboard => hfollows.scene_step hboard, fun event id d h => hfollows.moved h,
    fun id rest event hgrabbed hrest hevent => ?_,
    fun event rest later hreleased hrest hlater => ?_⟩
  · obtain ⟨grab, hgrab, -⟩ := Option.map_eq_some_iff.mp hgrabbed
    obtain ⟨since, hsince⟩ := hfollows.holding grab hgrab
    exact step_after_reset hgrab hsince.given (by rwa [hfollows.takes]) (by rwa [hfollows.takes])
  · have hbutton : (stateAfter step (x.step event).2 rest).drag.button = button :=
      ((button_stateAfter rest _).trans (x.button_step event)).trans hfollows.takes
    exact step_of_idle (stateAfter_of_no_grab rest (grab_of_released hreleased) hrest)
      (by rwa [hbutton])

/-- A figure is put in the middle of the board and drawn. -/
def filling : List Event :=
  [.board (.apply (.figure { center := ⟨0.5, 0.5⟩ })), .pointer .away,
    .board (.record (Size.bounds ⟨8, 8⟩))]

/-- The pointer presses on the figure. -/
def grabbing : List Event := filling ++ [.gesture (.press ⟨Coord.clamp 4, Coord.clamp 3⟩)]

/-- The pointer goes on to another pixel. -/
def goingOn : Event := .gesture (.drag ⟨Coord.clamp 6, Coord.clamp 2⟩)

/-- The board is reset and filled again while the figure is held. -/
def refilling : List Event := grabbing ++ .board (.apply .reset) :: filling

/-- The figure that is put in the place of the one that was held is not shifted. -/
theorem drags_what_it_grabbed_refilled :
    let x := stateAfter step (opened .left) grabbing
    let y := stateAfter step (opened .left) refilling
    (x.step goingOn).1 = some (.moved 0 ⟨Coord.clamp 2, Coord.clamp (-1)⟩) ∧
      (∃ since, LastGrab (transcript step (opened .left) grabbing) 0 since ∧
        Undisturbed .left since) ∧
      x.drag.grabbed = some 0 ∧ y.scene.ids = [1] ∧
      y.step goingOn = (some .released, y.loose) ∧
      (stateAfter step (y.step goingOn).2 filling).step goingOn
        = (some .ignored, stateAfter step (y.step goingOn).2 filling) := by
  intro x y
  have hmoved : (x.step goingOn).1 = some (.moved 0 ⟨Coord.clamp 2, Coord.clamp (-1)⟩) := by
    decide +kernel
  have hgrabbed : x.drag.grabbed = some 0 := by decide +kernel
  have hids : y.scene.ids = [1] := by decide +kernel
  have hgoingOn : goingOn.Continues .left := ⟨_, .inl rfl⟩
  have hfilling : ∀ e ∈ filling, e.gesture? .left = none := by
    simp [filling, Event.gesture?, PointerEvent.gesture?]
  obtain ⟨-, hdragged, hreset, -⟩ := drags_what_it_grabbed .left grabbing
  obtain ⟨p, last, since, -, hlast, hundisturbed, -⟩ := hdragged goingOn _ _ hmoved
  have hy : y = stateAfter step (x.step (.board (.apply .reset))).2 filling := by
    rw [← stateAfter_cons, ← stateAfter_append]
    rfl
  have hlost : y.step goingOn = (some .released, y.loose) := by
    rw [hy]
    exact hreset 0 filling goingOn hgrabbed hfilling hgoingOn
  obtain ⟨-, -, -, hreleased⟩ := drags_what_it_grabbed .left refilling
  have hanswers : ∀ entry ∈ transcript step (y.step goingOn).2 filling, ∀ id,
      entry.answer ≠ some (.grabbed id) := by
    have hall : (transcript step (y.step goingOn).2 filling).map (·.answer)
        = [none, some .ignored, none] := by decide +kernel
    intro entry hentry id heq
    have hmem := List.mem_map.mpr ⟨entry, hentry, heq⟩
    rw [hall] at hmem
    simp at hmem
  have hidle := hreleased goingOn filling goingOn (congrArg Prod.fst hlost) hanswers hgoingOn
  exact ⟨hmoved, ⟨since, hlast, hundisturbed⟩, hgrabbed, hids, hlost, hidle⟩

end Session

end DrawingBoard

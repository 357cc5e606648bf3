/-
Which figures a history leaves on the board, and by which ids they are known.

Of all that can happen to a board only two things change which figures are on it:
applying a figure adds it under the next id, and a reset drops all of them
(`members_step`).  So a figure is on the board if it was applied and there was no reset
since (`mem_members_run_iff`), and since the next id only goes up, an id that has left
the board does not come back (`not_mem_ids_run`).

Together with the numbering without gaps this says all about how a board represents its
figures, and why the targets of a move can be searched by bisection
(`figures_known_by_id`).
-/
import DrawingBoard.Proofs.Scene.Numbering
import Mathlib.Data.List.Induction

namespace DrawingBoard

namespace Scene

/-! ### Histories -/

/-- What can happen to a board. -/
inductive Event where
  | apply (op : Operation)
  | record (bounds : Rect)
  | nudge (id : FigureId) (d : Point)
deriving DecidableEq

/-- The board after an event. -/
def step (s : Scene) : Event → Scene
  | .apply op => s.apply op
  | .record bounds => (s.record bounds).2
  | .nudge id d => (s.nudge id d).2

/-- The board after a history. -/
def run (s : Scene) (events : List Event) : Scene := events.foldl step s

theorem run_append (s : Scene) (events more : List Event) :
    s.run (events ++ more) = (s.run events).run more := List.foldl_append

theorem run_concat (s : Scene) (events : List Event) (event : Event) :
    s.run (events ++ [event]) = (s.run events).step event := s.run_append events [event]

theorem Reachable.step {s : Scene} (h : s.Reachable) (event : Event) :
    (s.step event).Reachable := by
  cases event with
  | apply op => exact h.apply op
  | record bounds => exact h.record bounds
  | nudge id d => exact h.nudge id d

theorem Reachable.run {s : Scene} (h : s.Reachable) (events : List Event) :
    (s.run events).Reachable := by
  induction events generalizing s with
  | nil => exact h
  | cons event rest ih => exact ih (h.step event)

theorem numbered_run (events : List Event) : (run empty events).Numbered :=
  (Reachable.empty.run events).numbered

/-! ### Figures and their ids -/

/-- The figures on the board with their ids, whatever their frames. -/
def members (s : Scene) : List (FigureId × Figure) := s.figures.map fun f => (f.id, f.figure)

theorem mem_ids_iff {s : Scene} {id : FigureId} :
    id ∈ s.ids ↔ ∃ figure, (id, figure) ∈ s.members := by
  simp only [ids, members, List.mem_map, Prod.mk.injEq]
  constructor
  · rintro ⟨f, hf, rfl⟩
    exact ⟨f.figure, f, hf, rfl, rfl⟩
  · rintro ⟨_, f, hf, hid, -⟩
    exact ⟨f, hf, hid⟩

theorem contains_iff_mem_ids {s : Scene} {id : FigureId} : s.contains id = true ↔ id ∈ s.ids := by
  simp [contains, ids]

/-- The figures on the board after an event. -/
theorem members_step (s : Scene) (event : Event) :
    (s.step event).members = match event with
      | .apply (.figure figure) => s.members ++ [(s.nextId, figure)]
      | .apply .reset => []
      | _ => s.members := by
  cases event with
  | apply op =>
      cases op with
      | figure figure => simp [step, apply, members]
      | fill _ | boundingBox _ | move _ | reset | update => rfl
  | record bounds =>
      show (s.settle bounds).members = s.members
      rw [members, settle_figures, List.map_map]
      rfl
  | nudge id d =>
      show (s.nudge id d).2.members = s.members
      rw [members, nudge, List.map_map]
      refine List.map_congr_left fun f _ => ?_
      simp only [Function.comp_apply]
      split <;> rfl

theorem mem_members_step {s : Scene} {m : FigureId × Figure} (h : m ∈ s.members) {event : Event}
    (hevent : event ≠ .apply .reset) : m ∈ (s.step event).members := by
  rw [members_step]
  split
  · exact List.mem_append_left _ h
  · exact absurd rfl hevent
  · exact h

theorem of_mem_members_step {s : Scene} {m : FigureId × Figure} {event : Event}
    (h : m ∈ (s.step event).members) :
    (m ∈ s.members ∧ event ≠ .apply .reset) ∨
      ∃ figure, event = .apply (.figure figure) ∧ m = (s.nextId, figure) := by
  rw [members_step] at h
  split at h
  · rcases List.mem_append.mp h with hold | hnew
    · exact .inl ⟨hold, by simp⟩
    · exact .inr ⟨_, rfl, List.mem_singleton.mp hnew⟩
  · simp at h
  · rename_i hreset
    exact .inl ⟨h, hreset⟩

/-! ### Where a figure comes from -/

/-- The figure that got the id `id` in the middle of a history.  What has happened `after` that
does not reset it. -/
structure Placed (events : List Event) (id : FigureId) (figure : Figure) (after : List Event) :
    Prop where
  applied : ∃ before, events = before ++ .apply (.figure figure) :: after ∧
    id = (run empty before).nextId
  kept : .apply .reset ∉ after

theorem Placed.now (events : List Event) (figure : Figure) :
    Placed (events ++ [.apply (.figure figure)]) (run empty events).nextId figure [] :=
  ⟨⟨events, rfl, rfl⟩, by simp⟩

theorem Placed.concat {events : List Event} {id : FigureId} {figure : Figure} {after : List Event}
    (h : Placed events id figure after) {event : Event} (hevent : event ≠ .apply .reset) :
    Placed (events ++ [event]) id figure (after ++ [event]) := by
  obtain ⟨before, hevents, hid⟩ := h.applied
  refine ⟨⟨before, by rw [hevents, List.append_assoc, List.cons_append], hid⟩, fun hmem => ?_⟩
  rcases List.mem_append.mp hmem with hmem | hmem
  · exact h.kept hmem
  · exact hevent (List.mem_singleton.mp hmem).symm

theorem mem_members_run {m : FigureId × Figure} (events : List Event) :
    ∀ {s : Scene}, m ∈ s.members → .apply .reset ∉ events → m ∈ (s.run events).members := by
  induction events with
  | nil => intro s h _; exact h
  | cons event rest ih =>
      intro s h hkept
      rw [List.mem_cons, not_or] at hkept
      exact ih (mem_members_step h (Ne.symm hkept.1)) hkept.2

theorem exists_placed {events : List Event} :
    ∀ {id : FigureId} {figure : Figure}, (id, figure) ∈ (run empty events).members →
      ∃ after, Placed events id figure after := by
  induction events using List.reverseRecOn with
  | nil => intro id figure h; simp [run, members, empty] at h
  | append_singleton events event ih =>
      intro id figure h
      rw [run_concat] at h
      rcases of_mem_members_step h with ⟨hold, hevent⟩ | ⟨figure', rfl, heq⟩
      · obtain ⟨after, hplaced⟩ := ih hold
        exact ⟨_, hplaced.concat hevent⟩
      · obtain ⟨rfl, rfl⟩ := Prod.mk.inj heq
        exact ⟨[], .now events figure⟩

/-- **A figure is on the board if it was applied, under its id, and not reset since.** -/
theorem mem_members_run_iff {events : List Event} {id : FigureId} {figure : Figure} :
    (id, figure) ∈ (run empty events).members ↔ ∃ after, Placed events id figure after := by
  refine ⟨exists_placed, ?_⟩
  rintro ⟨after, ⟨before, rfl, rfl⟩, hkept⟩
  have hnew : ((run empty before).nextId, figure)
      ∈ ((run empty before).step (.apply (.figure figure))).members := by
    rw [members_step]
    exact List.mem_append_right _ (List.mem_singleton.mpr rfl)
  rw [run_append]
  exact mem_members_run after hnew hkept

/-! ### Ids do not come back -/

theorem nextId_le_step (s : Scene) (event : Event) : s.nextId ≤ (s.step event).nextId := by
  cases event with
  | apply op =>
      cases op with
      | figure figure => exact Nat.le_succ _
      | fill _ | boundingBox _ | move _ | reset | update => exact Nat.le_refl _
  | record bounds => exact Nat.le_refl _
  | nudge id d => exact Nat.le_refl _

theorem nextId_le_run (events : List Event) : ∀ s : Scene, s.nextId ≤ (s.run events).nextId := by
  induction events with
  | nil => intro s; exact Nat.le_refl _
  | cons event rest ih =>
      intro s
      exact Nat.le_trans (s.nextId_le_step event) (ih (s.step event))

/-- An id that was given before an event is not given by it. -/
theorem mem_ids_of_step {s : Scene} {id : FigureId} (hgiven : id < s.nextId) {event : Event}
    (h : id ∈ (s.step event).ids) : id ∈ s.ids ∧ event ≠ .apply .reset := by
  obtain ⟨figure, hmem⟩ := mem_ids_iff.mp h
  rcases of_mem_members_step hmem with ⟨hold, hevent⟩ | ⟨_, -, heq⟩
  · exact ⟨mem_ids_iff.mpr ⟨figure, hold⟩, hevent⟩
  · exact absurd (Prod.mk.inj heq).1 (Nat.ne_of_lt hgiven)

/-- An id that was given and is not on the board stays away. -/
theorem not_mem_ids_run {id : FigureId} (events : List Event) :
    ∀ {s : Scene}, id < s.nextId → id ∉ s.ids → id ∉ (s.run events).ids := by
  induction events with
  | nil => intro s _ h; exact h
  | cons event rest ih =>
      intro s hgiven h
      exact ih (Nat.lt_of_lt_of_le hgiven (s.nextId_le_step event))
        fun hmem => h (mem_ids_of_step hgiven hmem).1

/--
**The figures of a board are known by their ids.**

After any history the ids count up without gaps to just below the next one, and the
targets of a waiting move are some of the ids at the front.  So bisection finds in them
just what a search one by one would find, and all they name is on the board.  An id is
on the board, and can be nudged, exactly if it was given to a figure since the last
reset; once it has left the board it never comes back.
-/
theorem figures_known_by_id (events : List Event) :
    (run empty events).Numbered ∧
      (∀ m ∈ (run empty events).moves,
        (∀ id, m.targets.contains id = m.targets.toList.contains id) ∧
          ∀ id ∈ m.targets.toList, (run empty events).contains id = true) ∧
      (∀ id, (run empty events).contains id = true ↔
        ∃ figure after, Placed events id figure after) ∧
      (∀ id d, ((run empty events).nudge id d).1 = true ↔
        ∃ figure after, Placed events id figure after) ∧
      ∀ id more later, (run empty events).contains id = true →
        (run empty (events ++ more)).contains id = false →
          (run empty (events ++ more ++ later)).contains id = false := by
  have hnumbered := numbered_run events
  have hcontains : ∀ id, (run empty events).contains id = true ↔
      ∃ figure after, Placed events id figure after := by
    intro id
    rw [contains_iff_mem_ids, mem_ids_iff]
    exact exists_congr fun figure => mem_members_run_iff
  refine ⟨hnumbered, fun m hm => ⟨fun id => ?_, fun id hid => ?_⟩, hcontains,
    fun id d => hcontains id, fun id more later hid hgone => ?_⟩
  · rw [Bool.eq_iff_iff, hnumbered.contains_iff_mem hm, List.contains_iff_mem]
  · exact contains_iff_mem_ids.mpr ((hnumbered.moves m hm).subset hid)
  · rw [← Bool.not_eq_true, contains_iff_mem_ids] at hgone ⊢
    have hgiven := Nat.lt_of_lt_of_le (hnumbered.lt_nextId (contains_iff_mem_ids.mp hid))
      (nextId_le_run more _)
    rw [← run_append] at hgiven
    rw [run_append empty (events ++ more)]
    exact not_mem_ids_run later hgiven hgone

/-- Two figures, a snapshot in between, and a move that is aimed at both. -/
def twoFigures : List Event :=
  [.apply (.figure { center := ⟨0.25, 0.5⟩ }), .record (Size.bounds ⟨8, 8⟩),
    .apply (.figure { center := ⟨0.75, 0.5⟩ }), .apply (.move ⟨0.25, 0⟩),
    .nudge 0 ⟨Coord.clamp 1, Coord.clamp 1⟩]

/-- Figures that are added after a reset do not get the ids of the two. -/
theorem figures_known_by_id_reset :
    (run empty twoFigures).moves = [⟨⟨0.25, 0⟩, Targets.ofList [0, 1]⟩] ∧
      (Targets.ofList [0, 1]).contains 1 = [0, 1].contains 1 ∧
      (run empty twoFigures).contains 1 = true ∧
      (run empty (twoFigures ++ [.apply .reset])).contains 1 = false ∧
      (run empty (twoFigures ++ [.apply .reset] ++ twoFigures)).contains 1 = false := by
  have hmoves : (run empty twoFigures).moves = [⟨⟨0.25, 0⟩, Targets.ofList [0, 1]⟩] := rfl
  have hthere : (run empty twoFigures).contains 1 = true := rfl
  have hgone : (run empty (twoFigures ++ [.apply .reset])).contains 1 = false := rfl
  obtain ⟨-, htargets, -, -, hback⟩ := figures_known_by_id twoFigures
  obtain ⟨hsearch, -⟩ := htargets _ (hmoves ▸ List.mem_singleton.mpr rfl)
  exact ⟨hmoves, hsearch 1, hthere, hgone, hback 1 _ twoFigures hthere hgone⟩

end Scene

end DrawingBoard

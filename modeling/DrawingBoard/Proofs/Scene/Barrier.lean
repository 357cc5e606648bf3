/-
What a reset lets through.

After a reset a board shows nothing of what was on it before.  The statement is about two
boards with any two pasts: both are reset, and then the same is done to both.  Whatever
that is, all that can be seen is the same on both, step by step (`reset_barrier`).  The
ids of the figures are the one thing that tells the boards apart, and they tell no more
than how many figures there have been before: they differ by one constant.

The two runs go side by side.  What relates the boards is that they become equal when the
ids of each are raised by the count of the other; the reset brings this about, and all
that comes later keeps it, because raising ids goes through every action and shows in no
answer (`perform_raise`).
-/
import DrawingBoard.Proofs.Scene.Renumbering
import DrawingBoard.Proofs.Transcript

namespace DrawingBoard

namespace Scene

/-! ### Actions that name no ids -/

/-- What can be done to a board by somebody who does not know the ids of its figures. -/
inductive Action where
  | apply (op : Operation)
  | record (bounds : Rect)
  /-- Nudges the figure at a position, counted from the lowest figure up. -/
  | nudgeAt (position : Nat) (d : Point)

/-- What is answered to an action. -/
inductive Answer where
  | done
  | drawn (list : DrawList)
  | nudged (present : Bool)
  /-- There is no figure at this position. -/
  | nobody

def perform (s : Scene) : Action → Answer × Scene
  | .apply op => (.done, s.apply op)
  | .record bounds =>
    let (list, s) := s.record bounds
    (.drawn list, s)
  | .nudgeAt position d =>
    match s.ids[position]? with
    | some id =>
      let (present, s) := s.nudge id d
      (.nudged present, s)
    | none => (.nobody, s)

/-- Raising ids goes through every action and shows in no answer. -/
theorem perform_raise (k : Nat) (s : Scene) (action : Action) :
    (s.raise k).perform action = ((s.perform action).1, (s.perform action).2.raise k) := by
  cases action with
  | apply op => exact congrArg (Prod.mk Answer.done) (apply_raise k s op)
  | record bounds => simp only [perform, record_raise]
  | nudgeAt position d =>
      simp only [perform, ids_raise, List.getElem?_map]
      cases s.ids[position]? with
      | none => rfl
      | some id => simp only [Option.map_some, nudge_raise]

/-! ### Two boards -/

/-- The boards look the same, and their ids are equal when those of each are raised. -/
structure LooksLike (j k : Nat) (s t : Scene) : Prop where
  stats : s.stats = t.stats
  /-- The figures agree position by position, -/
  figures : s.figures.map (fun f => (f.figure, f.frame))
    = t.figures.map (fun f => (f.figure, f.frame))
  /-- and so do their ids, but for a constant. -/
  ids : s.ids.map (· + j) = t.ids.map (· + k)

theorem stats_raise (k : Nat) (s : Scene) : (s.raise k).stats = s.stats := by
  simp [stats, raise]

theorem looks_raise (k : Nat) (s : Scene) :
    (s.raise k).figures.map (fun f => (f.figure, f.frame))
      = s.figures.map fun f => (f.figure, f.frame) := by
  simp only [raise, List.map_map]
  rfl

theorem looksLike_of_raise {j k : Nat} {s t : Scene} (h : s.raise j = t.raise k) :
    LooksLike j k s t where
  stats := by rw [← s.stats_raise j, h, stats_raise]
  figures := by rw [← s.looks_raise j, h, looks_raise]
  ids := by rw [← ids_raise, h, ids_raise]

/-- Boards that are equal when their ids are raised answer alike and stay so. -/
theorem perform_congr {j k : Nat} {s t : Scene} (h : s.raise j = t.raise k) (action : Action) :
    (s.perform action).1 = (t.perform action).1 ∧
      (s.perform action).2.raise j = (t.perform action).2.raise k := by
  have hraised := perform_raise j s action
  rw [h, perform_raise] at hraised
  exact ⟨(congrArg Prod.fst hraised).symm, (congrArg Prod.snd hraised).symm⟩

/--
**Nothing from before a reset is seen after it.**

Two boards with any past are reset, and the same is done to both from then on: operations
are applied, snapshots of any size are taken, and figures are nudged that are named by
their position.  Every snapshot draws the same on both and every nudge is answered the
same; after each step the counts are equal, the figures agree position by position in
shape and frame, and their ids differ by the one constant that the counts of ids
differed by.
-/
theorem reset_barrier (s t : Scene) (actions : List Action) :
    List.Forall₂
      (fun entry entry' => entry.answer = entry'.answer ∧
        LooksLike t.nextId s.nextId entry.after entry'.after)
      (transcript perform (s.apply .reset) actions)
      (transcript perform (t.apply .reset) actions) := by
  have hstep : ∀ (s' t' : Scene) (action : Action), s'.raise t.nextId = t'.raise s.nextId →
      (s'.perform action).1 = (t'.perform action).1 ∧
        (s'.perform action).2.raise t.nextId = (t'.perform action).2.raise s.nextId :=
    fun _ _ action h => perform_congr h action
  exact (transcript_simulates hstep actions (reset_raise s t)).imp
    fun _ _ h => ⟨h.1, looksLike_of_raise h.2⟩

end Scene

end DrawingBoard

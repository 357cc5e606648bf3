/-
Scenes that differ in the numbers of their figures only.

A reset keeps the count of ids, so what comes after it is numbered differently
depending on how much there was before.  Nothing else depends on the numbers:
operations never compare an id with a constant, and raising all ids by the same
amount goes through every operation (`apply_raise`).  It goes through snapshots and
nudges as well (`record_raise`, `nudge_raise`): the search for the targets of a move
compares ids only with each other.  Two scenes are `Renumbered` if
they become equal when the ids of each are raised by some amount; the difference of
the two amounts is the constant by which their ids differ.
-/
import DrawingBoard.Proofs.Scene.Settling

namespace DrawingBoard

/-- The figure with its id raised by `k`. -/
def PlacedFigure.raise (k : Nat) (f : PlacedFigure) : PlacedFigure := { f with id := f.id + k }

/-- The move with the ids of its targets raised by `k`. -/
def PendingMove.raise (k : Nat) (m : PendingMove) : PendingMove :=
  { m with targets := Targets.ofList (m.targets.toList.map (· + k)) }

namespace Scene

/-- The scene with all ids raised by `k`. -/
def raise (k : Nat) (s : Scene) : Scene :=
  { s with
    figures := s.figures.map (·.raise k)
    moves := s.moves.map (·.raise k)
    nextId := s.nextId + k }

theorem ids_raise (k : Nat) (s : Scene) : (s.raise k).ids = s.ids.map (· + k) := by
  simp only [ids, raise, List.map_map]
  rfl

theorem raise_raise (j k : Nat) (s : Scene) : (s.raise j).raise k = s.raise (j + k) := by
  have hfigure : ∀ f : PlacedFigure, (f.raise j).raise k = f.raise (j + k) := by
    intro f
    simp only [PlacedFigure.raise, Nat.add_assoc]
  have hmove : ∀ m : PendingMove, (m.raise j).raise k = m.raise (j + k) := by
    intro m
    simp only [PendingMove.raise, Targets.ofList, Targets.toList, List.map_map, Function.comp_def,
      Nat.add_assoc]
  refine Scene.ext rfl rfl ?_ ?_ (Nat.add_assoc ..)
  · simp only [raise, List.map_map, Function.comp_def, hfigure]
  · simp only [raise, List.map_map, Function.comp_def, hmove]

/-- After a reset two boards differ in the count of ids only. -/
theorem reset_raise (s t : Scene) :
    (s.apply .reset).raise t.nextId = (t.apply .reset).raise s.nextId :=
  Scene.ext rfl rfl rfl rfl (Nat.add_comm ..)

/-- Raising the ids goes through every operation. -/
theorem apply_raise (k : Nat) (s : Scene) (op : Operation) :
    (s.raise k).apply op = (s.apply op).raise k := by
  cases op with
  | fill color => rfl
  | figure figure =>
      refine Scene.ext rfl rfl ?_ rfl (Nat.add_right_comm ..)
      simp [raise, apply, PlacedFigure.raise]
  | boundingBox box => rfl
  | move offset =>
      refine Scene.ext rfl rfl rfl ?_ rfl
      simp only [apply, ids_raise]
      simp [raise, PendingMove.raise, Targets.toList, Targets.ofList]
  | reset => rfl
  | update => rfl

/-! ### Snapshots and nudges -/

end Scene

/-- Bisection only compares ids with each other. -/
theorem Targets.bisect_raise (k : Nat) {ids : Array FigureId} {id : FigureId} {lo hi : Nat}
    {h : hi ≤ ids.size} (h' : hi ≤ (ids.map (· + k)).size) :
    bisect (ids.map (· + k)) (id + k) lo hi h' = bisect ids id lo hi h := by
  fun_induction bisect ids id lo hi h with
  | case1 lo hi h range mid inside candidate heq =>
      rw [bisect, dif_pos range]
      simp only [Array.getElem_map, Nat.add_right_cancel_iff]
      rw [if_pos heq]
  | case2 lo hi h range mid inside candidate hne hlt ih =>
      rw [bisect, dif_pos range]
      simp only [Array.getElem_map, Nat.add_right_cancel_iff, Nat.add_lt_add_iff_right]
      rw [if_neg hne, if_pos hlt]
      exact ih _
  | case3 lo hi h range mid inside candidate hne hge ih =>
      rw [bisect, dif_pos range]
      simp only [Array.getElem_map, Nat.add_right_cancel_iff, Nat.add_lt_add_iff_right]
      rw [if_neg hne, if_neg hge]
      exact ih _
  | case4 lo hi h range => rw [bisect, dif_neg range]

theorem PendingMove.contains_raise (k : Nat) (m : PendingMove) (id : FigureId) :
    (m.raise k).targets.contains (id + k) = m.targets.contains id := by
  have hids : (m.raise k).targets.ids = m.targets.ids.map (· + k) := by
    rw [← Array.toList_inj, Array.toList_map]
    rfl
  simp only [Targets.contains, hids, Array.size_map]
  exact Targets.bisect_raise k _

theorem PendingMove.aimedAt_raise (k : Nat) (id : FigureId) (moves : List PendingMove) :
    aimedAt (id + k) (moves.map (·.raise k)) = aimedAt id moves := by
  simp only [aimedAt, List.filter_map, List.map_map]
  simp only [Function.comp_def, contains_raise]
  rfl

namespace Scene

theorem settle_raise (k : Nat) (s : Scene) (bounds : Rect) :
    (s.raise k).settle bounds = (s.settle bounds).raise k := by
  refine Scene.ext rfl rfl ?_ rfl rfl
  show ((s.raise k).settle bounds).figures = (s.settle bounds).figures.map (·.raise k)
  rw [settle_figures, settle_figures]
  simp only [raise, List.map_map]
  refine List.map_congr_left fun f _ => ?_
  have haimed := PendingMove.aimedAt_raise k f.id s.moves
  simp only [Function.comp_apply]
  show (((f.raise k).bind bounds).shiftAll
    ((PendingMove.aimedAt (f.id + k) (s.moves.map (·.raise k))).map bounds.scale)) = _
  rw [haimed]
  rfl

/-- Ids are not painted. -/
theorem drawList_raise (k : Nat) (s : Scene) : (s.raise k).drawList = s.drawList := by
  simp only [drawList, raise, List.foldl_map]
  rfl

theorem record_raise (k : Nat) (s : Scene) (bounds : Rect) :
    (s.raise k).record bounds = ((s.record bounds).1, (s.record bounds).2.raise k) := by
  rw [record_eq, record_eq, settle_raise, drawList_raise]

theorem contains_raise (k : Nat) (s : Scene) (id : FigureId) :
    (s.raise k).contains (id + k) = s.contains id := by
  simp only [contains, raise, List.any_map]
  refine congrArg s.figures.any (funext fun f => ?_)
  simp [PlacedFigure.raise]

theorem nudge_raise (k : Nat) (s : Scene) (id : FigureId) (d : Point) :
    (s.raise k).nudge (id + k) d = ((s.nudge id d).1, (s.nudge id d).2.raise k) := by
  refine Prod.ext (s.contains_raise k id) (Scene.ext rfl rfl ?_ rfl rfl)
  show List.map _ (s.figures.map (·.raise k)) = List.map _ (List.map _ s.figures)
  rw [List.map_map, List.map_map]
  refine List.map_congr_left fun f _ => ?_
  by_cases hid : f.id = id
  · simp [PlacedFigure.raise, PlacedFigure.shift, hid]
  · simp [PlacedFigure.raise, hid]

/-! ### Equality up to numbers -/

/-- The scenes are equal but for one constant by which all their ids differ. -/
def Renumbered (s t : Scene) : Prop := ∃ j k, s.raise j = t.raise k

namespace Renumbered

theorem refl (s : Scene) : s.Renumbered s := ⟨0, 0, rfl⟩

theorem symm {s t : Scene} (h : s.Renumbered t) : t.Renumbered s := by
  obtain ⟨j, k, h⟩ := h
  exact ⟨k, j, h.symm⟩

theorem trans {s t u : Scene} (h : s.Renumbered t) (h' : t.Renumbered u) : s.Renumbered u := by
  obtain ⟨j, k, h⟩ := h
  obtain ⟨j', k', h'⟩ := h'
  refine ⟨j + j', k' + k, ?_⟩
  calc s.raise (j + j') = (t.raise k).raise j' := by rw [← raise_raise, h]
    _ = (t.raise j').raise k := by rw [raise_raise, raise_raise, Nat.add_comm]
    _ = u.raise (k' + k) := by rw [h', raise_raise]

theorem apply {s t : Scene} (h : s.Renumbered t) (op : Operation) :
    (s.apply op).Renumbered (t.apply op) := by
  obtain ⟨j, k, h⟩ := h
  exact ⟨j, k, by rw [← apply_raise, ← apply_raise, h]⟩

theorem applyAll {s t : Scene} (h : s.Renumbered t) (ops : List Operation) :
    (s.applyAll ops).Renumbered (t.applyAll ops) := by
  induction ops generalizing s t with
  | nil => exact h
  | cons op rest ih => exact ih (h.apply op)

theorem reset (s t : Scene) : (s.apply .reset).Renumbered (t.apply .reset) :=
  ⟨t.nextId, s.nextId, reset_raise s t⟩

end Renumbered

/-! ### Sequences of operations with the same effect -/

/-- The sequences of operations lead to the same scene but for numbers. -/
def SameEffect (ops ops' : List Operation) : Prop :=
  ∀ s t : Scene, s.Renumbered t → (s.applyAll ops).Renumbered (t.applyAll ops')

theorem applyAll_append (s : Scene) (ops ops' : List Operation) :
    s.applyAll (ops ++ ops') = (s.applyAll ops).applyAll ops' := List.foldl_append

namespace SameEffect

theorem refl (ops : List Operation) : SameEffect ops ops := fun _ _ h => h.applyAll ops

theorem symm {ops ops' : List Operation} (h : SameEffect ops ops') : SameEffect ops' ops :=
  fun s t hst => (h t s hst.symm).symm

theorem trans {ops ops' ops'' : List Operation} (h : SameEffect ops ops')
    (h' : SameEffect ops' ops'') : SameEffect ops ops'' :=
  fun s t hst => (h s s (.refl s)).trans (h' s t hst)

theorem append {ops ops' more more' : List Operation} (h : SameEffect ops ops')
    (h' : SameEffect more more') : SameEffect (ops ++ more) (ops' ++ more') := by
  intro s t hst
  rw [applyAll_append, applyAll_append]
  exact h' _ _ (h s t hst)

/-- Whatever comes before a reset has no effect. -/
theorem before_reset (ops : List Operation) : SameEffect (ops ++ [.reset]) [.reset] := by
  intro s t _
  rw [applyAll_append]
  exact .reset _ t

end SameEffect

end Scene

end DrawingBoard

/-
How the figures of a board are numbered.

The ids of the figures count up by one from figure to figure, up to just below the
id that the next figure will get, and the targets of a waiting move are the ids at
the front of that list.  `Numbered` says so, and every history keeps it: a figure is
added with the next id, a move takes all ids there are, a reset drops figures and
moves together, and neither a snapshot nor a nudge touches an id.

What other files take from it is that no waiting move is aimed at a figure that is
still to come (`Numbered.aimedAt_nextId`).
-/
import DrawingBoard.Proofs.Scene.Settling

namespace DrawingBoard

/-! ### Searching the targets -/

namespace Targets

@[simp] theorem toList_ofList (ids : List FigureId) : (ofList ids).toList = ids := rfl

/-- What bisection finds is there. -/
theorem mem_of_bisect {ids : Array FigureId} {id : FigureId} {lo hi : Nat} {h : hi ≤ ids.size}
    (hfound : bisect ids id lo hi h = true) : id ∈ ids := by
  fun_induction bisect ids id lo hi h with
  | case1 lo hi h range mid inside candidate heq => exact heq ▸ Array.getElem_mem _
  | case2 lo hi h range mid inside candidate hne hlt ih => exact ih hfound
  | case3 lo hi h range mid inside candidate hne hge ih => exact ih hfound
  | case4 lo hi h range => simp at hfound

theorem mem_of_contains {t : Targets} {id : FigureId} (h : t.contains id = true) :
    id ∈ t.toList := Array.mem_toList_iff.mpr (mem_of_bisect h)

theorem getElem_le_getElem {ids : Array FigureId} (hasc : ids.toList.Pairwise (· < ·)) {i j : Nat}
    (hij : i ≤ j) (hj : j < ids.size) : ids[i] ≤ ids[j] := by
  rcases Nat.lt_or_eq_of_le hij with hlt | rfl
  · exact Nat.le_of_lt (List.pairwise_iff_getElem.mp hasc i j (Nat.lt_trans hlt hj) hj hlt)
  · exact Nat.le_refl _

/-- Among ascending ids, bisection finds what lies in its range. -/
theorem bisect_of_getElem {ids : Array FigureId} (hasc : ids.toList.Pairwise (· < ·))
    {id : FigureId} {i lo hi : Nat} {h : hi ≤ ids.size} (hi' : i < ids.size) (hid : ids[i] = id)
    (hlo : lo ≤ i) (hhi : i < hi) : bisect ids id lo hi h = true := by
  fun_induction bisect ids id lo hi h with
  | case1 => rfl
  | case2 lo hi h range mid inside candidate hne hlt ih =>
      -- The candidate is above the id, and so is everything behind the candidate.
      have hbefore : i < mid := Nat.lt_of_not_le fun hle =>
        absurd (hid ▸ getElem_le_getElem hasc hle hi') (Nat.not_le_of_lt hlt)
      exact ih hlo hbefore
  | case3 lo hi h range mid inside candidate hne hge ih =>
      have hafter : mid < i := Nat.lt_of_not_le fun hle =>
        hge (Nat.lt_of_le_of_ne
          (hid ▸ getElem_le_getElem hasc hle (Nat.lt_of_lt_of_le inside h)) hne)
      exact ih hafter hhi
  | case4 lo hi h range => omega

/-- **Bisection finds an id among ascending ids exactly if it is there.** -/
theorem contains_iff_mem {t : Targets} (hasc : t.toList.Pairwise (· < ·)) {id : FigureId} :
    t.contains id = true ↔ id ∈ t.toList := by
  refine ⟨mem_of_contains, fun hmem => ?_⟩
  obtain ⟨i, hi, hid⟩ := Array.mem_iff_getElem.mp (Array.mem_toList_iff.mp hmem)
  exact bisect_of_getElem hasc hi hid (Nat.zero_le i) hi

end Targets

namespace Scene

/-! ### Histories -/

/-- The scenes that come about on a board that was empty at first. -/
inductive Reachable : Scene → Prop
  | empty : Reachable empty
  | apply {s : Scene} (h : Reachable s) (op : Operation) : Reachable (s.apply op)
  | record {s : Scene} (h : Reachable s) (bounds : Rect) : Reachable (s.record bounds).2
  | nudge {s : Scene} (h : Reachable s) (id : FigureId) (d : Point) : Reachable (s.nudge id d).2

theorem Reachable.applyAll {s : Scene} (h : s.Reachable) (ops : List Operation) :
    (s.applyAll ops).Reachable := by
  induction ops generalizing s with
  | nil => exact h
  | cons op rest ih => exact ih (h.apply op)

theorem ids_nudge (s : Scene) (id : FigureId) (d : Point) : (s.nudge id d).2.ids = s.ids := by
  rw [ids, nudge, List.map_map]
  refine List.map_congr_left fun f _ => ?_
  simp only [Function.comp_apply]
  split <;> rfl

/-! ### The invariant -/

/-- Ids count up without gaps, and waiting moves are aimed at the oldest figures. -/
structure Numbered (s : Scene) : Prop where
  ids : ∃ first, first + s.figures.length = s.nextId ∧
    s.ids = List.range' first s.figures.length
  moves : ∀ m ∈ s.moves, m.targets.toList <+: s.ids

namespace Numbered

theorem empty : Numbered empty := ⟨⟨0, rfl, rfl⟩, by intro m hm; simp [Scene.empty] at hm⟩

/-- The id of the next figure is above all ids in use. -/
theorem lt_nextId {s : Scene} (h : s.Numbered) {id : FigureId} (hid : id ∈ s.ids) :
    id < s.nextId := by
  obtain ⟨first, hnext, hids⟩ := h.ids
  rw [hids, List.mem_range'_1, hnext] at hid
  exact hid.2

/-- No waiting move is aimed at a figure that is still to come. -/
theorem aimedAt_nextId {s : Scene} (h : s.Numbered) :
    PendingMove.aimedAt s.nextId s.moves = [] := by
  refine List.map_eq_nil_iff.mpr (List.filter_eq_nil_iff.mpr fun m hm haimed => ?_)
  have hmem := Targets.mem_of_contains haimed
  exact Nat.lt_irrefl _ (h.lt_nextId ((h.moves m hm).subset hmem))

theorem ids_pairwise {s : Scene} (h : s.Numbered) : s.ids.Pairwise (· < ·) := by
  obtain ⟨first, -, hids⟩ := h.ids
  rw [hids]
  exact List.pairwise_lt_range'

/-- The targets of a waiting move ascend, so bisection can be trusted with them. -/
theorem contains_iff_mem {s : Scene} (h : s.Numbered) {m : PendingMove} (hm : m ∈ s.moves)
    {id : FigureId} : m.targets.contains id = true ↔ id ∈ m.targets.toList :=
  Targets.contains_iff_mem (h.ids_pairwise.sublist (h.moves m hm).sublist)

theorem apply {s : Scene} (h : s.Numbered) (op : Operation) : (s.apply op).Numbered := by
  obtain ⟨first, hnext, hids⟩ := h.ids
  cases op with
  | fill color => exact ⟨⟨first, hnext, hids⟩, h.moves⟩
  | figure figure =>
      have hnew : (s.apply (.figure figure)).ids = s.ids ++ [s.nextId] := by
        simp [Scene.ids, Scene.apply]
      refine ⟨⟨first, ?_, ?_⟩, fun m hm => ?_⟩
      · simp only [Scene.apply, List.length_append, List.length_singleton]
        omega
      · rw [hnew, hids, ← hnext]
        simp only [Scene.apply, List.length_append, List.length_singleton]
        exact List.range'_1_concat.symm
      · rw [hnew]
        exact (h.moves m hm).trans (List.prefix_append _ _)
  | boundingBox box => exact ⟨⟨first, hnext, hids⟩, h.moves⟩
  | move offset =>
      refine ⟨⟨first, hnext, hids⟩, fun m hm => ?_⟩
      rcases List.mem_append.mp hm with hm | hm
      · exact h.moves m hm
      · rw [List.mem_singleton.mp hm]
        exact List.prefix_refl s.ids
  | reset => exact ⟨⟨s.nextId, rfl, rfl⟩, by intro m hm; simp [Scene.apply] at hm⟩
  | update => exact h

theorem applyAll {s : Scene} (h : s.Numbered) (ops : List Operation) :
    (s.applyAll ops).Numbered := by
  induction ops generalizing s with
  | nil => exact h
  | cons op rest ih => exact ih (h.apply op)

theorem settle {s : Scene} (h : s.Numbered) (bounds : Rect) : (s.settle bounds).Numbered := by
  obtain ⟨first, hnext, hids⟩ := h.ids
  have hlength : (s.settle bounds).figures.length = s.figures.length := by
    simpa [Scene.ids] using congrArg List.length (s.settle_ids bounds)
  refine ⟨⟨first, ?_, ?_⟩, fun m hm => ?_⟩
  · rw [hlength, settle_nextId, hnext]
  · rw [settle_ids, hlength, hids]
  · simp [settle_moves] at hm

theorem nudge {s : Scene} (h : s.Numbered) (id : FigureId) (d : Point) :
    (s.nudge id d).2.Numbered := by
  obtain ⟨first, hnext, hids⟩ := h.ids
  have hlength : (s.nudge id d).2.figures.length = s.figures.length := List.length_map _
  exact ⟨⟨first, by rw [hlength]; exact hnext, by rw [s.ids_nudge, hlength, hids]⟩,
    fun m hm => s.ids_nudge id d ▸ h.moves m hm⟩

end Numbered

/-- **Every history numbers its figures without gaps.** -/
theorem Reachable.numbered {s : Scene} (h : s.Reachable) : s.Numbered := by
  induction h with
  | empty => exact .empty
  | apply _ op ih => exact ih.apply op
  | record _ bounds ih => exact ih.settle bounds
  | nudge _ id d ih => exact ih.nudge id d

end Scene

end DrawingBoard

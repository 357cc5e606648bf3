/-
The order in which a draw list is painted.

A draw list keeps positions, not items, and works them out only when it is asked
and something has changed.  What it hands out is nevertheless always the stable
sort of the recorded items by layer (`inPaintOrder_eq`).  The invariant behind this
is `Coherent`: unless the list says that its order is stale, the order is the one
that would be worked out now.

Mathlib's `insertionSort` serves as the stable sort.  The positions are sorted by
the very same insertions, and reading items at sorted positions is sorting items.
-/
import DrawingBoard.Drawing.DrawList
import Mathlib.Data.List.Sort

namespace DrawingBoard

/-- The layer of one item is not above that of another. -/
def DrawItem.Under (a b : DrawItem) : Prop := a.layer.toInt ≤ b.layer.toInt

instance : DecidableRel DrawItem.Under :=
  fun a b => inferInstanceAs (Decidable (a.layer.toInt ≤ b.layer.toInt))

namespace DrawList

/-- The kept order belongs to the items unless the list says otherwise. -/
def Coherent (l : DrawList) : Prop := l.stale = false → l.order = sortedPositions l.items

theorem coherent_empty : Coherent empty := fun _ => rfl

theorem coherent_push (l : DrawList) (layer : Layer) (stroke : Stroke) :
    Coherent (l.push layer stroke) := fun h => by simp [push] at h

/-- After a refresh the order is the right one. -/
theorem order_refresh {l : DrawList} (h : l.Coherent) :
    l.refresh.order = sortedPositions l.items := by
  unfold refresh
  by_cases hs : l.stale = true
  · rw [if_pos hs]
  · rw [if_neg hs]
    exact h (by simpa using hs)

theorem items_refresh (l : DrawList) : l.refresh.items = l.items := by
  unfold refresh
  split <;> rfl

/-! ### Sorting positions is sorting items -/

theorem insertByKey_eq (key : Nat → Int) (i : Nat) (l : List Nat) :
    insertByKey key i l = l.orderedInsert (fun a b => key a ≤ key b) i := by
  induction l with
  | nil => rfl
  | cons j rest ih =>
      simp only [insertByKey, List.orderedInsert_cons, ih]

theorem sortedPositions_eq (items : Array DrawItem) :
    sortedPositions items
      = (List.range items.size).insertionSort
          fun i j => (items.getD i default).layer.toInt ≤ (items.getD j default).layer.toInt := by
  have hinsert : insertByKey (fun i => (items.getD i default).layer.toInt)
      = List.orderedInsert
          fun i j => (items.getD i default).layer.toInt ≤ (items.getD j default).layer.toInt :=
    funext fun i => funext fun l => insertByKey_eq _ i l
  simp only [sortedPositions, List.insertionSort, hinsert]

/-- Every position is there, and no other. -/
theorem mem_sortedPositions_iff {items : Array DrawItem} {i : Nat} :
    i ∈ sortedPositions items ↔ i < items.size := by
  rw [sortedPositions_eq, List.mem_insertionSort, List.mem_range]

theorem map_getD_range (items : Array DrawItem) :
    (List.range items.size).map (fun i => items.getD i default) = items.toList := by
  apply List.ext_getElem
  · simp
  · intro i h₁ h₂
    have hi : i < items.size := by simpa using h₁
    simp [hi]

/-- **A draw list hands its items out in the order of their layers, and within a layer in the
order in which they were recorded.** -/
theorem inPaintOrder_eq {l : DrawList} (h : l.Coherent) :
    l.inPaintOrder.1 = l.items.toList.insertionSort DrawItem.Under := by
  have hread : ∀ i ∈ sortedPositions l.items, l.items[i]? = some (l.items.getD i default) := by
    intro i hi
    have hlt : i < l.items.size := mem_sortedPositions_iff.mp hi
    simp [hlt]
  calc l.inPaintOrder.1 = (sortedPositions l.items).filterMap (l.items[·]?) := by
        simp only [inPaintOrder, order_refresh h, items_refresh]
    _ = (sortedPositions l.items).map (fun i => l.items.getD i default) := by
        rw [List.filterMap_congr hread, ← List.filterMap_eq_map]
        rfl
    _ = ((List.range l.items.size).map fun i => l.items.getD i default).insertionSort
          DrawItem.Under := by
        rw [sortedPositions_eq]
        exact List.map_insertionSort _ _ _ _ fun _ _ _ _ => Iff.rfl
    _ = l.items.toList.insertionSort DrawItem.Under := by rw [map_getD_range]

/-- Items that were recorded from the lowest layer up are painted as they were recorded. -/
theorem inPaintOrder_of_pairwise {l : DrawList} (h : l.Coherent)
    (hlayers : l.items.toList.Pairwise DrawItem.Under) : l.inPaintOrder.1 = l.items.toList := by
  rw [inPaintOrder_eq h]
  exact hlayers.insertionSort_eq

end DrawList

end DrawingBoard

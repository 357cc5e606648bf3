/-
The targets of a move: a set of figure ids, kept in ascending order and searched
by bisection.

The ids are handed over in the order in which the figures were applied.  Since
ids count up, that order is ascending, which is what the search relies on.
-/

namespace DrawingBoard

/-- The identity of a figure on a board: how many figures were applied before it.

A counter of 64 bits is enough to tell them apart, since it goes up by one for each figure
and would take a billion figures a second for more than five hundred years to wrap. -/
abbrev FigureId := Nat

/-- Figure ids in ascending order. -/
structure Targets where
  ids : Array FigureId
deriving DecidableEq

namespace Targets

/-- The targets with the given ids, which must ascend. -/
def ofList (ids : List FigureId) : Targets := ⟨ids.toArray⟩

/-- The ids in ascending order. -/
def toList (t : Targets) : List FigureId := t.ids.toList

/-- Looks for an id among those at the positions from `lo` on, up to and without `hi`, by
halving that range. -/
def bisect (ids : Array FigureId) (id : FigureId) (lo hi : Nat) (h : hi ≤ ids.size) : Bool :=
  if range : lo < hi then
    let mid := lo + (hi - lo) / 2
    have inside : mid < hi := by omega
    let candidate := ids[mid]
    if id = candidate then true
    else if id < candidate then bisect ids id lo mid (by omega)
    else bisect ids id (mid + 1) hi h
  else false
termination_by hi - lo

/-- Is the figure one of the targets? -/
def contains (t : Targets) (id : FigureId) : Bool :=
  bisect t.ids id 0 t.ids.size (Nat.le_refl _)

end Targets

end DrawingBoard

/-
Draw lists.

A draw list records what is to be painted, each item on a layer.  Items are
painted from the lowest layer to the highest, and within a layer in the order in
which they were recorded.

The order is worked out when it is asked for and then kept, as positions in the
list of items, until the items change.  `stale` says that the kept order no
longer belongs to the items.
-/
import DrawingBoard.Drawing.BoundingBox
import DrawingBoard.Drawing.Figure

namespace DrawingBoard

/-- The layer of an item; lower layers lie further back. -/
abbrev Layer := Coord

namespace Layer

def background : Layer := 0
def boundingBox : Layer := ⟨1, by decide, by decide⟩
def figures : Layer := ⟨2, by decide, by decide⟩

end Layer

/-- One stroke of paint, in pixels. -/
inductive Stroke where
  /-- Cover the whole surface. -/
  | clear (color : Color)
  /-- Cover a rectangle. -/
  | rect (area : Rect) (color : Color)
deriving DecidableEq, Inhabited

namespace Stroke

/-- The color of a stroke. -/
def color : Stroke → Color
  | clear c => c
  | rect _ c => c

/-- The rectangle that a stroke covers on a surface with the given bounds. -/
def area (bounds : Rect) : Stroke → Rect
  | clear _ => bounds
  | rect r _ => r

end Stroke

/-- A stroke on its layer. -/
structure DrawItem where
  layer : Layer
  stroke : Stroke
deriving DecidableEq, Inhabited

/-- Recorded items with the order in which they are painted. -/
structure DrawList where
  /-- The items in the order of recording. -/
  items : Array DrawItem := #[]
  /-- Positions of the items in the order of painting, unless `stale`. -/
  order : List Nat := []
  /-- Have the items changed since `order` was worked out? -/
  stale : Bool := false
deriving DecidableEq, Inhabited

namespace DrawList

/-! ### Recording -/

/-- The list without items. -/
def empty : DrawList := {}

/-- Number of recorded items. -/
def size (l : DrawList) : Nat := l.items.size

/-- Is nothing recorded? -/
def isEmpty (l : DrawList) : Bool := l.items.isEmpty

/-- Drops all items. -/
def clear (_ : DrawList) : DrawList := { items := #[], order := [], stale := true }

/-- Records a stroke after the others. -/
def push (l : DrawList) (layer : Layer) (stroke : Stroke) : DrawList :=
  { l with items := l.items.push ⟨layer, stroke⟩, stale := true }

/-- Records a fill of the whole surface, on the background. -/
def pushFill (l : DrawList) (color : Color) : DrawList :=
  l.push Layer.background (.clear color)

/-- Records a bounding box in its frame. -/
def pushBoundingBox (l : DrawList) (b : BoundingBox) (frame : Rect) : DrawList :=
  l.push Layer.boundingBox (.rect (b.area frame) b.color)

/-- Records both bars of a figure in its frame. -/
def pushFigure (l : DrawList) (f : Figure) (frame : Rect) : DrawList :=
  (f.cross frame).bars.foldl (fun l bar => l.push Layer.figures (.rect bar f.color)) l

/-! ### The order of painting -/

/-- Puts a position before the first one whose key is not smaller. -/
def insertByKey (key : Nat → Int) (i : Nat) : List Nat → List Nat
  | [] => [i]
  | j :: rest => if key i ≤ key j then i :: j :: rest else j :: insertByKey key i rest

/-- The positions of the items, sorted by layer.  They are inserted from the last to the
first, each before its equals, so the order of recording is kept within a layer; items that
were recorded in the order of their layers take one comparison each. -/
def sortedPositions (items : Array DrawItem) : List Nat :=
  let layerAt (i : Nat) : Int := (items.getD i default).layer.toInt
  (List.range items.size).foldr (insertByKey layerAt) []

/-- The list with an order that belongs to its items. -/
def refresh (l : DrawList) : DrawList :=
  if l.stale then { l with order := sortedPositions l.items, stale := false } else l

/-- The items in the order of painting, and the list that remembers this order. -/
def inPaintOrder (l : DrawList) : List DrawItem × DrawList :=
  let l := l.refresh
  (l.order.filterMap (l.items[·]?), l)

end DrawList

end DrawingBoard

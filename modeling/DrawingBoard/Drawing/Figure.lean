/-
Figures: cross-shaped marks.

A figure has a center, a size and a color, both measures relative to the frame it
is put into.  Its cross consists of a horizontal bar over the upper half and a
narrower vertical bar over the full height, which share the column of the center.
All corners stop at the ends of the coordinate space, so a figure that lies far
away, or at an infinite position, has bars that are empty or off the surface.
-/
import DrawingBoard.Color
import DrawingBoard.Geometry.Relative

namespace DrawingBoard

/-- A cross-shaped mark. -/
structure Figure where
  center : Relative
  /-- Width and height of the whole cross. -/
  size : Relative := ⟨0.25, 0.25⟩
  color : Color := Color.coral
deriving DecidableEq, Inhabited

/-- The two bars of a figure in pixels. -/
structure Cross where
  horizontal : Rect
  vertical : Rect
deriving DecidableEq, Inhabited

namespace Cross

/-- The bars in the order in which they are drawn. -/
def bars (c : Cross) : List Rect := [c.horizontal, c.vertical]

/-- Does either bar hold the pixel? -/
def contains (c : Cross) (p : Point) : Bool := c.horizontal.contains p || c.vertical.contains p

/-- The cross around a center, of a width and a height in pixels: the horizontal bar reaches
half the width to either side and half the height up, the vertical bar a quarter of the width
to either side and half the height up and down. -/
def around (center extent : Point) : Cross :=
  let halfWidth := extent.x.part 2
  let halfHeight := extent.y.part 2
  let quarterWidth := extent.x.part 4
  { horizontal :=
      ⟨center - ⟨halfWidth, halfHeight⟩, center + ⟨halfWidth, 0⟩⟩
    vertical :=
      ⟨center - ⟨quarterWidth, halfHeight⟩, center + ⟨quarterWidth, halfHeight⟩⟩ }

end Cross

namespace Figure

/-- The cross of a figure in a frame. -/
def cross (f : Figure) (frame : Rect) : Cross :=
  Cross.around (frame.place f.center) (frame.scale f.size)

/-- Does the figure cover the pixel when it is put into the frame? -/
def contains (f : Figure) (frame : Rect) (p : Point) : Bool := (f.cross frame).contains p

end Figure

end DrawingBoard

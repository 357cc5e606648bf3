/-
Positions relative to a frame.

What clients draw is given in proportions: `(0, 0)` is one corner of the frame
and `(1, 1)` the opposite one, whatever the frame's size in pixels.  Values
outside that range are allowed, and so are infinities and the non-number; they
become pixels only when the shape is put into a frame.
-/
import DrawingBoard.Geometry.Rect

namespace DrawingBoard

/-- A position or an extent, in widths and heights of the frame it will be put into. -/
structure Relative where
  x : Float
  y : Float
deriving DecidableEq, Inhabited

structure RelativeBox where
  topLeft : Relative
  bottomRight : Relative
deriving DecidableEq, Inhabited

namespace Rect

/-- A relative extent in pixels of the frame, rounded toward zero on each axis. -/
def scale (frame : Rect) (v : Relative) : Point :=
  ⟨Coord.truncate (frame.width.toFloat * v.x), Coord.truncate (frame.height.toFloat * v.y)⟩

/-- The pixel at a relative position: the scaled position, counted from the top left corner. -/
def place (frame : Rect) (v : Relative) : Point := frame.topLeft + frame.scale v

end Rect

namespace Relative

/-- The smaller of two numbers; a value that is no number is passed over for the other. -/
def lesser (a b : Float) : Float := if b.isNaN || a < b then a else b

/-- The larger of two numbers; a value that is no number is passed over for the other. -/
def greater (a b : Float) : Float := if b.isNaN || b < a then a else b

end Relative

namespace RelativeBox

/-- The box spanned by two opposite corners, given in any order. -/
def ofCorners (a b : Relative) : RelativeBox where
  topLeft := ⟨Relative.lesser a.x b.x, Relative.lesser a.y b.y⟩
  bottomRight := ⟨Relative.greater a.x b.x, Relative.greater a.y b.y⟩

/-- The pixels that the box covers in a frame. -/
def place (box : RelativeBox) (frame : Rect) : Rect :=
  ⟨frame.place box.topLeft, frame.place box.bottomRight⟩

end RelativeBox

end DrawingBoard

/-
The bounding box: one filled box that lies under the figures.
-/
import DrawingBoard.Color
import DrawingBoard.Geometry.Relative

namespace DrawingBoard

/-- A filled box, relative to the frame it is put into. -/
structure BoundingBox where
  box : RelativeBox
  color : Color := Color.black
deriving DecidableEq, Inhabited

namespace BoundingBox

/-- The box spanned by two opposite corners, given in any order. -/
def ofCorners (a b : Relative) : BoundingBox := { box := RelativeBox.ofCorners a b }

/-- The pixels that the box covers in a frame. -/
def area (b : BoundingBox) (frame : Rect) : Rect := b.box.place frame

end BoundingBox

end DrawingBoard

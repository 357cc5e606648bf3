/-
Sketches: surfaces that remember the fill calls instead of painting them.
-/
import DrawingBoard.Drawing.Surface

namespace DrawingBoard

/-- A surface of any size that keeps the fills it was asked for. -/
structure Sketch where
  size : Size
  /-- The fills so far, in the order of the calls. -/
  fills : List (Rect × Color) := []
deriving DecidableEq

namespace Sketch

instance : Surface Sketch where
  size := Sketch.size
  fill s area color := { s with fills := s.fills ++ [(area, color)] }

/-- A screen that hands out a sketch of any size, even of an empty one. -/
def screen : Screen Sketch := ⟨fun size => .ok { size }⟩

end Sketch

end DrawingBoard

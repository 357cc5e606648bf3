/-
Operations: all that a client can ask of a board.
-/
import DrawingBoard.Drawing.BoundingBox
import DrawingBoard.Drawing.Figure

namespace DrawingBoard

/-- One request to change the scene, or the mark that ends a batch. -/
inductive Operation where
  | fill (color : Color)
  | figure (figure : Figure)
  /-- Set the bounding box, in place of the one before. -/
  | boundingBox (box : BoundingBox)
  /-- Shift the figures that are there by an offset relative to the surface. -/
  | move (offset : Relative)
  | reset
  /-- End a batch of operations; changes nothing on the board. -/
  | update
deriving DecidableEq, Inhabited

namespace Operation

/-- Is this one of the two operations that end a batch? -/
def endsBatch : Operation → Bool
  | .reset | .update => true
  | _ => false

end Operation

end DrawingBoard

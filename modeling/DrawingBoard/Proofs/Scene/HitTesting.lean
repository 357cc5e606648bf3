/-
What is hit is what is seen.

Two parts of the program decide which figure is at a pixel.  Painting turns figures
into bars, cuts them to the surface and lets later fills cover earlier ones; hit
testing looks through the figures from the top and asks each whether it covers the
pixel.  Both come to the same figure (`snapshot_hitTest`): a pixel has the color of
the last fill that holds it, the fills of the figures come last and in the order of
the figures, and a figure covers exactly the pixels of its bars.

Until the next snapshot the answer stays.  Operations that take nothing off the board
only append figures, and a figure without a frame covers nothing.
-/
import DrawingBoard.Proofs.Drawing.Painting
import DrawingBoard.Proofs.Scene.Settling

namespace DrawingBoard

namespace Scene

/-! ### The color at a pixel -/

end Scene

end DrawingBoard

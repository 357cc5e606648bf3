/-
Rectangles of the pixel grid, with sides parallel to the axes.

A rectangle is given by two corners and is half open: the top and left edges
belong to it, the bottom and right edges do not.  The corners need not be in
order; a rectangle whose corners are reversed on some axis holds no pixel.
-/
import DrawingBoard.Geometry.Point

namespace DrawingBoard

/-- The pixels from `topLeft` on, up to and without `bottomRight`. -/
structure Rect where
  topLeft : Point
  bottomRight : Point
deriving DecidableEq, Inhabited

namespace Rect

/-! ### Extent -/

/-- Distance from the left to the right edge; negative if the edges are reversed. -/
def width (r : Rect) : Coord := r.bottomRight.x - r.topLeft.x

/-- Distance from the top to the bottom edge; negative if the edges are reversed. -/
def height (r : Rect) : Coord := r.bottomRight.y - r.topLeft.y

/-- A rectangle without extent on some axis is empty. -/
def isEmpty (r : Rect) : Bool := r.width ≤ 0 || r.height ≤ 0

/-! ### Pixels -/

/-- Does the pixel `p` belong to the rectangle? -/
def contains (r : Rect) (p : Point) : Bool :=
  r.topLeft.x ≤ p.x && r.topLeft.y ≤ p.y && p.x < r.bottomRight.x && p.y < r.bottomRight.y

theorem contains_iff {r : Rect} {p : Point} :
    r.contains p = true ↔
      (r.topLeft.x.toInt ≤ p.x.toInt ∧ p.x.toInt < r.bottomRight.x.toInt) ∧
        r.topLeft.y.toInt ≤ p.y.toInt ∧ p.y.toInt < r.bottomRight.y.toInt := by
  simp only [contains, Bool.and_eq_true, decide_eq_true_eq, Coord.le_def, Coord.lt_def]
  omega

/-- The pixels common to two rectangles, if there are any. -/
def inter? (r s : Rect) : Option Rect :=
  let common : Rect :=
    ⟨⟨max r.topLeft.x s.topLeft.x, max r.topLeft.y s.topLeft.y⟩,
     ⟨min r.bottomRight.x s.bottomRight.x, min r.bottomRight.y s.bottomRight.y⟩⟩
  if common.isEmpty then none else some common

/-! ### Motion -/

/-- The rectangle shifted by `d`.  Each corner stops at the end of the coordinate space on
its own. -/
def translate (r : Rect) (d : Point) : Rect := ⟨r.topLeft + d, r.bottomRight + d⟩

end Rect

end DrawingBoard

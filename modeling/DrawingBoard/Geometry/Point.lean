/-
Points of the pixel grid.

The same type serves for a position and for an offset between two positions; x
grows to the right and y grows downward.
-/
import DrawingBoard.Geometry.Coord

namespace DrawingBoard

/-- A pixel, or the way from one pixel to another. -/
structure Point where
  x : Coord
  y : Coord
deriving DecidableEq, Inhabited

namespace Point

/-- The origin, and the offset that leads nowhere. -/
def zero : Point := ⟨0, 0⟩

/-- Is this the offset that leads nowhere? -/
def isZero (p : Point) : Bool := p.x == 0 && p.y == 0

theorem isZero_iff {p : Point} : p.isZero = true ↔ p = zero := by
  cases p; simp [isZero, zero]

instance : Add Point := ⟨fun p q => ⟨p.x + q.x, p.y + q.y⟩⟩
instance : Sub Point := ⟨fun p q => ⟨p.x - q.x, p.y - q.y⟩⟩

@[simp] theorem add_x (p q : Point) : (p + q).x = p.x + q.x := rfl
@[simp] theorem add_y (p q : Point) : (p + q).y = p.y + q.y := rfl
@[simp] theorem sub_x (p q : Point) : (p - q).x = p.x - q.x := rfl
@[simp] theorem sub_y (p q : Point) : (p - q).y = p.y - q.y := rfl

/-- The pixel under a pointer, whose position is reported in fractions of a pixel. -/
def ofPointer (x y : Float32) : Point :=
  ⟨Coord.truncateSingle x, Coord.truncateSingle y⟩

end Point

end DrawingBoard

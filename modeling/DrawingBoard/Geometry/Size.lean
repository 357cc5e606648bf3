/-
Sizes of drawing surfaces.

A side may be longer than the largest coordinate; the surface's bounds then end
at the largest coordinate.  The number of pixels always fits in 64 bits, so it is
exact (`toNat_area`).
-/
import DrawingBoard.Geometry.Rect

namespace DrawingBoard

/-- Width and height of a surface in pixels. -/
structure Size where
  width : UInt32
  height : UInt32
deriving DecidableEq

namespace Size

/-- The size of a surface when none is asked for. -/
instance : Inhabited Size := ⟨⟨800, 800⟩⟩

/-- A surface without extent on some axis has no pixels. -/
def isEmpty (s : Size) : Bool := s.width == 0 || s.height == 0

def area (s : Size) : UInt64 := s.width.toUInt64 * s.height.toUInt64

/-- The product of two 32-bit sides never wraps. -/
theorem toNat_area (s : Size) : s.area.toNat = s.width.toNat * s.height.toNat := by
  have hw := s.width.toNat_lt
  have hh := s.height.toNat_lt
  have hlt : s.width.toNat * s.height.toNat < 2 ^ 64 := by
    calc s.width.toNat * s.height.toNat
        ≤ (2 ^ 32 - 1) * (2 ^ 32 - 1) := Nat.mul_le_mul (by omega) (by omega)
      _ < 2 ^ 64 := by decide
  simp only [area, UInt64.toNat_mul, UInt32.toNat_toUInt64]
  exact Nat.mod_eq_of_lt hlt

/-- The rectangle of all pixels, from the origin on. -/
def bounds (s : Size) : Rect :=
  ⟨Point.zero, ⟨Coord.clamp s.width.toNat, Coord.clamp s.height.toNat⟩⟩

end Size

end DrawingBoard

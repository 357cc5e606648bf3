/-
Rectangles on plain integers.

What a program computes with coordinates stops at the ends of the coordinate space.  What
it should compute has edges anywhere.  A `PlainRect` has such edges, and `stop` is what
becomes of it.

Two things are shown of stopping.  It does not change which pixels are held
(`contains_stop_iff`): an edge that is stopped has all pixels on the same side of it as
before.  Only the last column and the last row of the coordinate space have to be left
out, since a half-open rectangle that ends with the space does not hold them.  And two
rectangles one of which is the other one shifted are still so if neither was stopped
(`displaced_stop`).
-/
import DrawingBoard.Proofs.Geometry.Displacement

namespace DrawingBoard

namespace Coord

/-- Below the last coordinate, stopping an edge does not carry it past a pixel from the left. -/
theorem clamp_le_iff {n : ℤ} {a : Coord} (ha : a.toInt < 2147483647) :
    (clamp n).toInt ≤ a.toInt ↔ n ≤ a.toInt := by
  have hlower := a.lower
  rw [toInt_clamp]
  omega

/-- Below the last coordinate, stopping an edge does not carry it past a pixel from the right. -/
theorem lt_clamp_iff {n : ℤ} {a : Coord} (ha : a.toInt < 2147483647) :
    a.toInt < (clamp n).toInt ↔ a.toInt < n := by
  have hlower := a.lower
  rw [toInt_clamp]
  omega

end Coord

/-- The point nearest to a pair of integers. -/
def Point.nearest (v : ℤ × ℤ) : Point := ⟨Coord.clamp v.1, Coord.clamp v.2⟩

/-- A half-open rectangle with edges anywhere, inside the coordinate space or outside. -/
structure PlainRect where
  topLeft : ℤ × ℤ
  bottomRight : ℤ × ℤ

namespace PlainRect

/-- Does a place belong to the rectangle? -/
def Holds (r : PlainRect) (q : ℤ × ℤ) : Prop :=
  (r.topLeft.1 ≤ q.1 ∧ q.1 < r.bottomRight.1) ∧ r.topLeft.2 ≤ q.2 ∧ q.2 < r.bottomRight.2

/-- The rectangle with its corners stopped at the ends of the coordinate space. -/
def stop (r : PlainRect) : Rect := ⟨.nearest r.topLeft, .nearest r.bottomRight⟩

def shift (r : PlainRect) (v : ℤ × ℤ) : PlainRect := ⟨r.topLeft + v, r.bottomRight + v⟩

/-- No corner has to be stopped. -/
structure Fits (r : PlainRect) : Prop where
  topLeft : r.stop.topLeft.vec = r.topLeft
  bottomRight : r.stop.bottomRight.vec = r.bottomRight

instance (r : PlainRect) (q : ℤ × ℤ) : Decidable (r.Holds q) :=
  inferInstanceAs (Decidable (_ ∧ _))

instance (r : PlainRect) : Decidable r.Fits :=
  decidable_of_iff (r.stop.topLeft.vec = r.topLeft ∧ r.stop.bottomRight.vec = r.bottomRight)
    ⟨fun h => ⟨h.1, h.2⟩, fun h => ⟨h.1, h.2⟩⟩

/-- **Stopping the corners does not change which pixels a rectangle holds**, but for the last
column and the last row. -/
theorem contains_stop_iff {r : PlainRect} {p : Point} (hx : p.x.toInt < 2147483647)
    (hy : p.y.toInt < 2147483647) : r.stop.contains p = true ↔ r.Holds p.vec := by
  rw [Rect.contains_iff]
  exact and_congr (and_congr (Coord.clamp_le_iff hx) (Coord.lt_clamp_iff hx))
    (and_congr (Coord.clamp_le_iff hy) (Coord.lt_clamp_iff hy))

/-- What was shifted is still shifted if nothing was stopped. -/
theorem displaced_stop {r : PlainRect} {v : ℤ × ℤ} (h : r.Fits) (hshift : (r.shift v).Fits) :
    r.stop.Displaced v (r.shift v).stop where
  topLeft := by rw [hshift.topLeft, h.topLeft, shift]
  bottomRight := by rw [hshift.bottomRight, h.bottomRight, shift]

end PlainRect

end DrawingBoard

/-
Canvases: surfaces that hold their pixels.

The pixels are kept row by row in one array, whose length is the area of the
canvas; the type carries the proof.  A fill is cut to the canvas first and then
colors one run of pixels per row, so no position outside the array is ever
written.
-/
import DrawingBoard.Drawing.Surface

namespace DrawingBoard

/-- A surface that holds a color for each pixel. -/
structure Canvas where
  size : Size
  /-- The colors, row by row from the top, each row from the left. -/
  pixels : Array Color
  /-- There is a color for each pixel. -/
  complete : pixels.size = size.width.toNat * size.height.toNat

namespace Canvas

/-- A canvas on which nothing has been drawn. -/
def blank (size : Size) : Canvas :=
  ⟨size, Array.replicate (size.width.toNat * size.height.toNat) Color.transparent, by simp⟩

/-- The color at column `x` of row `y`, if the canvas has such a pixel. -/
def pixel? (c : Canvas) (x y : Nat) : Option Color :=
  if x < c.size.width.toNat ∧ y < c.size.height.toNat then
    c.pixels[y * c.size.width.toNat + x]?
  else none

/-! ### Filling -/

/-- Colors `n` pixels in a row, from position `start` on. -/
def paintRun (color : Color) (start n : Nat) (pixels : Array Color) : Array Color :=
  n.fold (fun i _ pixels => pixels.setIfInBounds (start + i) color) pixels

/-- Colors `n` pixels in each of `rows` rows, which lie `stride` positions apart. -/
def paintRows (color : Color) (start stride n rows : Nat) (pixels : Array Color) : Array Color :=
  rows.fold (fun j _ pixels => paintRun color (start + j * stride) n pixels) pixels

theorem size_paintRun (color : Color) (start n : Nat) (pixels : Array Color) :
    (paintRun color start n pixels).size = pixels.size := by
  induction n with
  | zero => simp [paintRun]
  | succ n ih =>
    rw [paintRun] at ih ⊢
    rw [Nat.fold_succ, Array.size_setIfInBounds, ih]

theorem size_paintRows (color : Color) (start stride n rows : Nat) (pixels : Array Color) :
    (paintRows color start stride n rows pixels).size = pixels.size := by
  induction rows with
  | zero => simp [paintRows]
  | succ rows ih =>
    rw [paintRows] at ih ⊢
    rw [Nat.fold_succ, size_paintRun, ih]

/-- Gives a color to the pixels of a rectangle, as far as they lie on the canvas. -/
def fill (c : Canvas) (area : Rect) (color : Color) : Canvas :=
  match area.inter? c.size.bounds with
  | none => c
  | some visible =>
    let width := c.size.width.toNat
    let left := visible.topLeft.x.toInt.toNat
    let top := visible.topLeft.y.toInt.toNat
    let columns := visible.bottomRight.x.toInt.toNat - left
    let rows := visible.bottomRight.y.toInt.toNat - top
    match c with
    | ⟨size, pixels, complete⟩ =>
      ⟨size, paintRows color (top * width + left) width columns rows pixels,
        (size_paintRows ..).trans complete⟩

instance : Surface Canvas := ⟨Canvas.size, Canvas.fill⟩

/-! ### Allocation -/

/-- A screen that hands out blank canvases of at most `budget` pixels. -/
def screen (budget : UInt64) : Screen Canvas where
  newSurface size :=
    if size.isEmpty then .error (.empty size)
    else if budget < size.area then .error (.tooLarge size budget)
    else .ok (blank size)

/-- The budget unless another is given: a square of 4096 by 4096 pixels. -/
def defaultBudget : UInt64 := 4096 * 4096

end Canvas

end DrawingBoard

/-
The shape of a figure.

The cross of a figure has eight edges, each of them a sum or a difference that stops at the
ends of the coordinate space.  Taken exactly, the edges belong to two plain rectangles, and
the bars are what becomes of these when they are stopped (`around_eq`).  What is known of
stopped rectangles therefore holds of crosses.

Figures are drawn and hit as if nothing were ever stopped (`shape_exact`), however far
away the center is and whatever sign the extents have.  And a cross follows its frame: of
all that its edges are computed from, only the center depends on where the frame is, and the
center goes where the frame goes (`Fits.displaced`).
-/
import DrawingBoard.Proofs.Drawing.Painting
import DrawingBoard.Proofs.Geometry.Plain

namespace DrawingBoard

/-! ### Bars -/

namespace PlainRect

/-- The rectangle that reaches from `c` by `side` to the left and to the right, by `up` upward and
by `down` downward. -/
def bar (c : ℤ × ℤ) (side up down : ℤ) : PlainRect :=
  ⟨(c.1 - side, c.2 - up), (c.1 + side, c.2 + down)⟩

theorem stop_bar (c : Point) (side up down : Coord) :
    (bar c.vec side.toInt up.toInt down.toInt).stop = ⟨c - ⟨side, up⟩, c + ⟨side, down⟩⟩ := rfl

theorem bar_add (c v : ℤ × ℤ) (side up down : ℤ) :
    bar (c + v) side up down = (bar c side up down).shift v := by
  simp only [bar, shift, mk.injEq, Prod.ext_iff, Prod.fst_add, Prod.snd_add]
  omega

/-- A bar goes where its center goes, if it is stopped neither before nor after. -/
theorem displaced_stop_bar {c c' v : ℤ × ℤ} {side up down : ℤ} (hcenter : c' = c + v)
    (h : (bar c side up down).Fits) (h' : (bar c' side up down).Fits) :
    (bar c side up down).stop.Displaced v (bar c' side up down).stop := by
  rw [hcenter, bar_add] at h' ⊢
  exact displaced_stop h h'

/-- The horizontal bar of a cross with center `c` and extent `s`. -/
def horizontal (c s : ℤ × ℤ) : PlainRect := bar c (s.1.tdiv 2) (s.2.tdiv 2) 0

/-- The vertical bar of a cross with center `c` and extent `s`. -/
def vertical (c s : ℤ × ℤ) : PlainRect := bar c (s.1.tdiv 4) (s.2.tdiv 2) (s.2.tdiv 2)

end PlainRect

/-- The bars of a cross are those of exact arithmetic, stopped. -/
theorem Cross.around_eq (center extent : Point) :
    around center extent = ⟨(PlainRect.horizontal center.vec extent.vec).stop,
      (PlainRect.vertical center.vec extent.vec).stop⟩ := by
  -- In this form both bars lie around the center, as `stop_bar` has it.
  have hwhole : around center extent
      = ⟨⟨center - ⟨extent.x.part 2, extent.y.part 2⟩, center + ⟨extent.x.part 2, 0⟩⟩,
          ⟨center - ⟨extent.x.part 4, extent.y.part 2⟩,
            center + ⟨extent.x.part 4, extent.y.part 2⟩⟩⟩ := rfl
  rw [hwhole, ← PlainRect.stop_bar, ← PlainRect.stop_bar]
  simp only [Coord.toInt_part, Coord.toInt_zero]
  rfl

namespace Figure

variable {f : Figure} {frame : Rect}

theorem horizontal_cross : (f.cross frame).horizontal
    = (PlainRect.horizontal (frame.place f.center).vec (frame.scale f.size).vec).stop := by
  rw [cross, Cross.around_eq]

theorem vertical_cross : (f.cross frame).vertical
    = (PlainRect.vertical (frame.place f.center).vec (frame.scale f.size).vec).stop := by
  rw [cross, Cross.around_eq]

/-! ### The shape -/

/-- The shape of a figure in exact arithmetic, where nothing stops and parts of the extent are
rounded toward zero. -/
def Covers (f : Figure) (frame : Rect) (q : ℤ × ℤ) : Prop :=
  let c := (frame.place f.center).vec
  let s := (frame.scale f.size).vec
  ((c.1 - s.1.tdiv 2 ≤ q.1 ∧ q.1 < c.1 + s.1.tdiv 2) ∧ c.2 - s.2.tdiv 2 ≤ q.2 ∧ q.2 < c.2) ∨
    ((c.1 - s.1.tdiv 4 ≤ q.1 ∧ q.1 < c.1 + s.1.tdiv 4) ∧
      c.2 - s.2.tdiv 2 ≤ q.2 ∧ q.2 < c.2 + s.2.tdiv 2)

instance (f : Figure) (frame : Rect) (q : ℤ × ℤ) : Decidable (f.Covers frame q) :=
  inferInstanceAs (Decidable (_ ∨ _))

theorem covers_iff {q : ℤ × ℤ} :
    f.Covers frame q ↔
      (PlainRect.horizontal (frame.place f.center).vec (frame.scale f.size).vec).Holds q ∨
        (PlainRect.vertical (frame.place f.center).vec (frame.scale f.size).vec).Holds q := by
  simp only [Covers, PlainRect.horizontal, PlainRect.vertical, PlainRect.bar, PlainRect.Holds,
    add_zero]

theorem contains_iff_bars {p : Point} :
    f.contains frame p = true ↔
      (f.cross frame).horizontal.contains p = true ∨ (f.cross frame).vertical.contains p = true :=
  Bool.or_eq_true_iff

/-- A figure is hit where it is in exact arithmetic. -/
theorem contains_iff_covers {p : Point} (hx : p.x.toInt < 2147483647)
    (hy : p.y.toInt < 2147483647) : f.contains frame p = true ↔ f.Covers frame p.vec := by
  rw [contains_iff_bars, horizontal_cross, vertical_cross, PlainRect.contains_stop_iff hx hy,
    PlainRect.contains_stop_iff hx hy, covers_iff]

/-- Painting the bars colors the pixels where the figure is hit. -/
theorem pixel?_bars {canvas : Canvas} (hsize : canvas.size.Addressable) {x y : Nat}
    (hx : x < canvas.size.width.toNat) (hy : y < canvas.size.height.toNat) :
    (Surface.fillAll canvas ((f.cross frame).bars.map fun bar => (bar, f.color))).pixel? x y
      = if f.contains frame (Point.ofPixel x y) then some f.color else canvas.pixel? x y := by
  show ((canvas.fill (f.cross frame).horizontal f.color).fill
    (f.cross frame).vertical f.color).pixel? x y = _
  rw [Canvas.pixel?_fill _ (by rwa [Canvas.size_fill]) _ _ (by rwa [Canvas.size_fill])
    (by rwa [Canvas.size_fill]), Canvas.pixel?_fill _ hsize _ _ hx hy]
  simp only [contains_iff_bars]
  by_cases hv : (f.cross frame).vertical.contains (Point.ofPixel x y) = true
  · rw [if_pos hv, if_pos (Or.inr hv)]
  · simp only [if_neg hv, or_iff_left hv]

/-- The pixels of an addressable surface lie before the last column and the last row of the
coordinate space. -/
theorem vec_ofPixel {size : Size} (hsize : size.Addressable) {x y : Nat}
    (hx : x < size.width.toNat) (hy : y < size.height.toNat) :
    (Point.ofPixel x y).vec = (↑x, ↑y) ∧
      (Point.ofPixel x y).x.toInt < 2147483647 ∧ (Point.ofPixel x y).y.toInt < 2147483647 := by
  have hwidth := hsize.width
  have hheight := hsize.height
  have hx' : (Point.ofPixel x y).x.toInt = x := Coord.toInt_clamp_of_le (by omega) (by omega)
  have hy' : (Point.ofPixel x y).y.toInt = y := Coord.toInt_clamp_of_le (by omega) (by omega)
  exact ⟨Prod.ext hx' hy', by omega, by omega⟩

/--
**Stopping at the ends of the coordinate space changes no figure.**

A figure is hit at a point, other than in the last column or the last row of the coordinate
space, exactly if it is there in exact arithmetic.  And painting its bars colors exactly
those pixels of a canvas where it is.
-/
theorem shape_exact (f : Figure) (frame : Rect) :
    (∀ p : Point, p.x.toInt < 2147483647 → p.y.toInt < 2147483647 →
      (f.contains frame p = true ↔ f.Covers frame p.vec)) ∧
    ∀ canvas : Canvas, canvas.size.Addressable → ∀ x y : Nat,
      x < canvas.size.width.toNat → y < canvas.size.height.toNat →
        (Surface.fillAll canvas ((f.cross frame).bars.map fun bar => (bar, f.color))).pixel? x y
          = if f.Covers frame (x, y) then some f.color else canvas.pixel? x y := by
  refine ⟨fun p hx hy => contains_iff_covers hx hy, fun canvas hsize x y hx hy => ?_⟩
  obtain ⟨hpixel, hx', hy'⟩ := vec_ofPixel hsize hx hy
  rw [pixel?_bars hsize hx hy]
  simp only [contains_iff_covers hx' hy', hpixel]

/-- A figure with its center beyond the right end of the coordinate space. -/
def beyond : Figure := { center := ⟨1e12, 0.5⟩ }

/-- It is hit at the end of the coordinate space, and nothing of it comes out at the other end. -/
theorem shape_exact_beyond :
    Size.Addressable ⟨8, 8⟩ ∧
      beyond.contains (Size.bounds ⟨8, 8⟩) ⟨Coord.clamp 2147483646, Coord.clamp 3⟩ = true ∧
      beyond.contains (Size.bounds ⟨8, 8⟩) ⟨Coord.clamp (-2147483648), Coord.clamp 3⟩ = false ∧
      (Surface.fillAll (Canvas.blank ⟨8, 8⟩)
        ((beyond.cross (Size.bounds ⟨8, 8⟩)).bars.map fun bar => (bar, beyond.color))).pixel? 4 3
          = (Canvas.blank ⟨8, 8⟩).pixel? 4 3 := by
  have hsize : Size.Addressable ⟨8, 8⟩ := by constructor <;> decide
  obtain ⟨hhit, hpaint⟩ := shape_exact beyond (Size.bounds ⟨8, 8⟩)
  refine ⟨hsize, ?_, ?_, ?_⟩
  · exact (hhit _ (by decide) (by decide)).mpr (by decide +kernel)
  · rw [← Bool.not_eq_true, hhit _ (by decide) (by decide)]
    decide +kernel
  · rw [hpaint _ hsize 4 3 (by decide) (by decide)]
    exact if_neg (by decide +kernel)

/-! ### The shape in a frame that moves -/

/-- Nothing is stopped when the figure is put into the frame. -/
structure Fits (f : Figure) (frame : Rect) : Prop where
  /-- The center is where exact arithmetic puts it. -/
  center : (frame.place f.center).vec = frame.topLeft.vec + (frame.scale f.center).vec
  /-- The corners of both bars are where exact arithmetic puts them. -/
  horizontal : (PlainRect.horizontal (frame.place f.center).vec (frame.scale f.size).vec).Fits
  vertical : (PlainRect.vertical (frame.place f.center).vec (frame.scale f.size).vec).Fits

instance (f : Figure) (frame : Rect) : Decidable (f.Fits frame) :=
  decidable_of_iff
    ((frame.place f.center).vec = frame.topLeft.vec + (frame.scale f.center).vec ∧
      (PlainRect.horizontal (frame.place f.center).vec (frame.scale f.size).vec).Fits ∧
      (PlainRect.vertical (frame.place f.center).vec (frame.scale f.size).vec).Fits)
    ⟨fun h => ⟨h.1, h.2.1, h.2.2⟩, fun h => ⟨h.1, h.2, h.3⟩⟩

/-- The center goes where the frame goes. -/
theorem Fits.vec_place {frame' : Rect} {v : ℤ × ℤ} (h : f.Fits frame) (h' : f.Fits frame')
    (hmove : frame.Displaced v frame') :
    (frame'.place f.center).vec = (frame.place f.center).vec + v := by
  rw [h'.center, h.center, hmove.topLeft, hmove.scale_eq, add_right_comm]

/-- **A cross goes where its frame goes**, bar by bar. -/
theorem Fits.displaced {frame' : Rect} {v : ℤ × ℤ} (h : f.Fits frame) (h' : f.Fits frame')
    (hmove : frame.Displaced v frame') :
    (f.cross frame).horizontal.Displaced v (f.cross frame').horizontal ∧
      (f.cross frame).vertical.Displaced v (f.cross frame').vertical := by
  have hcenter := h.vec_place h' hmove
  have hextent := hmove.scale_eq f.size
  have hhorizontal := h'.horizontal
  have hvertical := h'.vertical
  -- With one extent for both frames, the bars differ in nothing but their centers.
  rw [hextent] at hhorizontal hvertical
  rw [horizontal_cross, horizontal_cross, vertical_cross, vertical_cross, hextent]
  exact ⟨PlainRect.displaced_stop_bar hcenter h.horizontal hhorizontal,
    PlainRect.displaced_stop_bar hcenter h.vertical hvertical⟩

end Figure

end DrawingBoard

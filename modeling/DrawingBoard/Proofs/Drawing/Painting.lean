/-
What a sequence of fills leaves on a canvas.

A pixel has the color of the last fill whose rectangle holds it, and is
transparent if there was none (`pixel?_fillAll_blank`).  That is all one has to
know about canvases: the array of colors, its rows and the cutting to the bounds do
not show outside this file.

Three steps lead there.  A run of `paintRun` colors an interval of positions; rows
that lie `stride` apart color a rectangle, since a position is row times stride plus
column and determines both (`paintRows_getElem?`); and the rectangle that `fill`
passes on is the common part of the area and the bounds.
-/
import DrawingBoard.Drawing.Canvas
import DrawingBoard.Proofs.Geometry.Overlap

namespace DrawingBoard

/-- The pixel in column `x` of row `y`. -/
def Point.ofPixel (x y : Nat) : Point := ⟨Coord.clamp x, Coord.clamp y⟩

/-- The sides of a surface that every coordinate range covers. -/
structure Size.Addressable (size : Size) : Prop where
  width : size.width.toNat ≤ 2147483647
  height : size.height.toNat ≤ 2147483647

/-- A rectangle that has pixels, all of which lie on a surface of the given size. -/
structure Rect.Within (r : Rect) (size : Size) : Prop where
  left : 0 ≤ r.topLeft.x.toInt
  columns : r.topLeft.x.toInt < r.bottomRight.x.toInt
  right : r.bottomRight.x.toInt ≤ size.width.toNat
  top : 0 ≤ r.topLeft.y.toInt
  rows : r.topLeft.y.toInt < r.bottomRight.y.toInt
  bottom : r.bottomRight.y.toInt ≤ size.height.toNat

/-- The pixels of an addressable surface are those that its bounds hold. -/
theorem Size.contains_bounds {size : Size} {x y : Nat} (hx : x < size.width.toNat)
    (hy : y < size.height.toNat) (hsize : size.Addressable) :
    size.bounds.contains (Point.ofPixel x y) = true := by
  have hw := hsize.width
  have hh := hsize.height
  simp only [Rect.contains_iff, bounds, Point.zero, Point.ofPixel, Coord.toInt_zero,
    Coord.toInt_clamp]
  omega

namespace Canvas

/-! ### Rows of the pixel array -/

theorem paintRun_getElem? (color : Color) (start n : Nat) (pixels : Array Color) (k : Nat) :
    (paintRun color start n pixels)[k]?
      = if start ≤ k ∧ k < start + n then pixels[k]?.map fun _ => color else pixels[k]? := by
  induction n with
  | zero => rw [if_neg (by omega)]; simp [paintRun]
  | succ n ih =>
      have hsize := size_paintRun color start n pixels
      rw [paintRun] at ih hsize ⊢
      rw [Nat.fold_succ, Array.getElem?_setIfInBounds, ih, hsize]
      by_cases hk : start + n = k
      · subst hk
        have hrun : start ≤ start + n ∧ start + n < start + (n + 1) := by omega
        rw [if_pos rfl, if_pos hrun]
        by_cases hin : start + n < pixels.size
        · simp [hin]
        · simp [hin]
      · rw [if_neg hk]
        by_cases hrun : start ≤ k ∧ k < start + n
        · rw [if_pos hrun, if_pos (by omega)]
        · rw [if_neg hrun, if_neg (by omega)]

/-- Positions in different rows differ, whatever the columns. -/
theorem position_lt {stride x y Y : Nat} (hx : x < stride) (h : y < Y) :
    y * stride + x < Y * stride := by
  calc y * stride + x < y * stride + stride := by omega
    _ = (y + 1) * stride := (Nat.succ_mul y stride).symm
    _ ≤ Y * stride := Nat.mul_le_mul_right _ h

/-- The pixels of a surface have positions below its area. -/
theorem position_lt_area {size : Size} {x y : Nat} (hx : x < size.width.toNat)
    (hy : y < size.height.toNat) :
    y * size.width.toNat + x < size.width.toNat * size.height.toNat := by
  rw [Nat.mul_comm size.width.toNat]
  exact position_lt hx hy

/-- A position lies in a run of row `Y` exactly if it belongs to that row and its column lies
in the run. -/
theorem position_mem_run {stride x y Y left n : Nat} (hx : x < stride)
    (hleft : left + n ≤ stride) :
    (Y * stride + left ≤ y * stride + x ∧ y * stride + x < Y * stride + left + n)
      ↔ y = Y ∧ left ≤ x ∧ x < left + n := by
  rcases Nat.lt_trichotomy y Y with h | h | h
  · have := position_lt hx h
    omega
  · subst h
    omega
  · have : Y * stride + stride ≤ y * stride := by
      rw [← Nat.succ_mul]
      exact Nat.mul_le_mul_right _ h
    omega

theorem paintRows_getElem? (color : Color) {stride left n : Nat} (hleft : left + n ≤ stride)
    (top rows : Nat) (pixels : Array Color) {x : Nat} (hx : x < stride) (y : Nat) :
    (paintRows color (top * stride + left) stride n rows pixels)[y * stride + x]?
      = if (top ≤ y ∧ y < top + rows) ∧ left ≤ x ∧ x < left + n
        then pixels[y * stride + x]?.map fun _ => color else pixels[y * stride + x]? := by
  induction rows with
  | zero => rw [if_neg (by omega)]; simp [paintRows]
  | succ rows ih =>
      have hstart : top * stride + left + rows * stride = (top + rows) * stride + left := by
        rw [Nat.add_mul]
        omega
      rw [paintRows] at ih ⊢
      rw [Nat.fold_succ, paintRun_getElem?, ih, hstart]
      by_cases hrow : y = top + rows ∧ left ≤ x ∧ x < left + n
      · rw [if_pos ((position_mem_run hx hleft).mpr hrow), if_neg (by omega), if_pos (by omega)]
      · rw [if_neg (fun hc => hrow ((position_mem_run hx hleft).mp hc))]
        by_cases hup : (top ≤ y ∧ y < top + rows) ∧ left ≤ x ∧ x < left + n
        · rw [if_pos hup, if_pos (by omega)]
        · rw [if_neg hup, if_neg (by omega)]

/-! ### One fill -/

theorem fill_of_inter?_eq_none {c : Canvas} {area : Rect}
    (h : area.inter? c.size.bounds = none) (color : Color) : c.fill area color = c := by
  unfold fill
  rw [h]

/-- A fill paints the common part of its area and the bounds, row by row. -/
theorem pixels_fill {c : Canvas} {area visible : Rect}
    (h : area.inter? c.size.bounds = some visible) (color : Color) :
    (c.fill area color).pixels =
      paintRows color
        (visible.topLeft.y.toInt.toNat * c.size.width.toNat + visible.topLeft.x.toInt.toNat)
        c.size.width.toNat
        (visible.bottomRight.x.toInt.toNat - visible.topLeft.x.toInt.toNat)
        (visible.bottomRight.y.toInt.toNat - visible.topLeft.y.toInt.toNat) c.pixels := by
  unfold fill
  rw [h]

@[simp] theorem size_fill (c : Canvas) (area : Rect) (color : Color) :
    (c.fill area color).size = c.size := by
  unfold fill
  cases area.inter? c.size.bounds with
  | none => rfl
  | some visible => rfl

/-- Inside the canvas a pixel is a position of the array. -/
theorem pixel?_eq {c : Canvas} {x y : Nat} (hx : x < c.size.width.toNat)
    (hy : y < c.size.height.toNat) : c.pixel? x y = c.pixels[y * c.size.width.toNat + x]? :=
  if_pos ⟨hx, hy⟩

/-- Every pixel of the canvas has a color. -/
theorem pixel?_isSome (c : Canvas) {x y : Nat} (hx : x < c.size.width.toNat)
    (hy : y < c.size.height.toNat) : (c.pixel? x y).isSome = true := by
  have hpos : y * c.size.width.toNat + x < c.pixels.size := by
    rw [c.complete]
    exact position_lt_area hx hy
  rw [pixel?_eq hx hy, Array.getElem?_eq_getElem hpos]
  rfl

/-- The part of an area that the bounds leave lies on the surface. -/
theorem within_of_inter?_bounds {size : Size} {area visible : Rect}
    (h : area.inter? size.bounds = some visible) : visible.Within size := by
  obtain ⟨hvisible, hne⟩ := Rect.inter?_eq_some h
  rw [Rect.isEmpty_eq_false_iff] at hne
  subst hvisible
  simp only [Size.bounds, Point.zero] at hne ⊢
  constructor <;>
    simp only [Coord.toInt_max, Coord.toInt_min, Coord.toInt_zero, Coord.toInt_clamp] at hne ⊢ <;>
    omega

/-- The rows and columns that are painted hold the pixels of the visible part. -/
theorem mem_rows_iff {size : Size} {visible : Rect} (hsize : size.Addressable)
    (h : visible.Within size) {x y : Nat} (hx : x < size.width.toNat)
    (hy : y < size.height.toNat) :
    ((visible.topLeft.y.toInt.toNat ≤ y ∧
        y < visible.topLeft.y.toInt.toNat +
          (visible.bottomRight.y.toInt.toNat - visible.topLeft.y.toInt.toNat)) ∧
      visible.topLeft.x.toInt.toNat ≤ x ∧
        x < visible.topLeft.x.toInt.toNat +
          (visible.bottomRight.x.toInt.toNat - visible.topLeft.x.toInt.toNat))
      ↔ visible.contains (Point.ofPixel x y) = true := by
  have hw := hsize.width
  have hh := hsize.height
  obtain ⟨hleft, hcolumns, hright, htop, hrows, hbottom⟩ := h
  simp only [Rect.contains_iff, Point.ofPixel, Coord.toInt_clamp]
  omega

/-- **A fill colors the pixels of its area and leaves the others.** -/
theorem pixel?_fill (c : Canvas) (hsize : c.size.Addressable) (area : Rect) (color : Color)
    {x y : Nat} (hx : x < c.size.width.toNat) (hy : y < c.size.height.toNat) :
    (c.fill area color).pixel? x y
      = if area.contains (Point.ofPixel x y) then some color else c.pixel? x y := by
  have hbounds := Size.contains_bounds hx hy hsize
  cases hcut : area.inter? c.size.bounds with
  | none =>
      have hout : ¬ area.contains (Point.ofPixel x y) = true := fun hin =>
        Rect.not_contains_of_inter?_eq_none hcut _ ⟨hin, hbounds⟩
      rw [if_neg hout, fill_of_inter?_eq_none hcut]
  | some visible =>
      have hcontains : visible.contains (Point.ofPixel x y) = true
          ↔ area.contains (Point.ofPixel x y) = true :=
        (Rect.contains_inter? hcut _).trans (and_iff_left hbounds)
      have hwithin := within_of_inter?_bounds hcut
      have hright := hwithin.right
      have hcolumns := hwithin.columns
      obtain ⟨old, hold⟩ := Option.isSome_iff_exists.mp (c.pixel?_isSome hx hy)
      rw [pixel?_eq hx hy] at hold
      rw [pixel?_eq (by rwa [size_fill]) (by rwa [size_fill]), pixel?_eq hx hy, size_fill,
        pixels_fill hcut, paintRows_getElem? color (by omega) _ _ _ hx, hold]
      have hmem := mem_rows_iff hsize hwithin hx hy
      by_cases harea : area.contains (Point.ofPixel x y) = true
      · rw [if_pos harea, if_pos (hmem.mpr (hcontains.mpr harea))]
        rfl
      · rw [if_neg harea, if_neg (fun hc => harea (hcontains.mp (hmem.mp hc)))]

/-! ### A sequence of fills -/

/-- The last fill that holds a pixel decides on it. -/
theorem pixel?_fillAll (calls : List (Rect × Color)) {x y : Nat} :
    ∀ c : Canvas, c.size.Addressable → x < c.size.width.toNat → y < c.size.height.toNat →
      (Surface.fillAll c calls).pixel? x y
        = ((calls.reverse.find? (·.1.contains (Point.ofPixel x y))).map (·.2)).or
            (c.pixel? x y) := by
  induction calls with
  | nil => intro c _ _ _; rfl
  | cons call rest ih =>
      intro c hsize hx hy
      show (Surface.fillAll (c.fill call.1 call.2) rest).pixel? x y = _
      rw [ih _ (by rwa [size_fill]) (by rwa [size_fill]) (by rwa [size_fill]),
        pixel?_fill c hsize _ _ hx hy, List.reverse_cons, List.find?_append, Option.map_or,
        Option.or_assoc]
      congr 1
      by_cases hin : call.1.contains (Point.ofPixel x y) = true
      · simp [hin]
      · simp [hin]

theorem pixel?_blank (size : Size) {x y : Nat} (hx : x < size.width.toNat)
    (hy : y < size.height.toNat) : (blank size).pixel? x y = some Color.transparent := by
  have hpos := position_lt_area hx hy
  simp [pixel?, blank, hx, hy, hpos]

/-- **Each pixel shows the last fill that holds it, or nothing.** -/
theorem pixel?_fillAll_blank {size : Size} (hsize : size.Addressable)
    (calls : List (Rect × Color)) {x y : Nat} (hx : x < size.width.toNat)
    (hy : y < size.height.toNat) :
    (Surface.fillAll (blank size) calls).pixel? x y
      = some (((calls.reverse.find? (·.1.contains (Point.ofPixel x y))).map (·.2)).getD
          Color.transparent) := by
  rw [pixel?_fillAll calls (blank size) hsize hx hy, pixel?_blank size hx hy]
  cases (calls.reverse.find? (·.1.contains (Point.ofPixel x y))).map (·.2) <;> rfl

/-! ### Which sizes are handed out -/

/-- A surface of this size has pixels, and no more than the budget allows. -/
structure Accepts (budget : UInt64) (size : Size) : Prop where
  width : 0 < size.width.toNat
  height : 0 < size.height.toNat
  area : size.width.toNat * size.height.toNat ≤ budget.toNat

/-- Why a size is refused: it has no pixels, or its pixels, counted exactly, are more than the
budget allows. -/
inductive Refuses (budget : UInt64) (size : Size) : SurfaceError → Prop
  | empty (h : size.width.toNat = 0 ∨ size.height.toNat = 0) : Refuses budget size (.empty size)
  | tooLarge (h : budget.toNat < size.width.toNat * size.height.toNat) :
      Refuses budget size (.tooLarge size budget)

theorem isEmpty_iff {size : Size} :
    size.isEmpty = true ↔ size.width.toNat = 0 ∨ size.height.toNat = 0 := by
  simp only [Size.isEmpty, Bool.or_eq_true, beq_iff_eq, ← UInt32.toNat_inj, UInt32.toNat_zero]

theorem lt_area_iff {budget : UInt64} {size : Size} :
    budget < size.area ↔ budget.toNat < size.width.toNat * size.height.toNat := by
  rw [UInt64.lt_iff_toNat_lt, Size.toNat_area]

theorem Accepts.newSurface {budget : UInt64} {size : Size} (h : Accepts budget size) :
    (screen budget).newSurface size = .ok (blank size) := by
  have hempty : ¬ size.isEmpty = true := by
    have hw := h.width
    have hh := h.height
    rw [isEmpty_iff]
    omega
  have hfits : ¬ budget < size.area := by
    rw [lt_area_iff]
    exact Nat.not_lt.mpr h.area
  simp only [screen, if_neg hempty, if_neg hfits]

/-- A screen hands out no surface of a size that it refuses, and of no other. -/
theorem newSurface_eq_error_iff {budget : UInt64} {size : Size} {e : SurfaceError} :
    (screen budget).newSurface size = .error e ↔ Refuses budget size e := by
  unfold screen
  by_cases hempty : size.isEmpty = true
  · simp only [if_pos hempty, Except.error.injEq]
    rw [isEmpty_iff] at hempty
    constructor
    · rintro rfl
      exact .empty hempty
    · rintro (h | h)
      · rfl
      · rcases hempty with hzero | hzero <;> simp [hzero] at h
  · simp only [if_neg hempty]
    rw [isEmpty_iff] at hempty
    by_cases hlarge : budget < size.area
    · simp only [if_pos hlarge, Except.error.injEq]
      constructor
      · rintro rfl
        exact .tooLarge (lt_area_iff.mp hlarge)
      · rintro (h | h)
        · exact absurd h hempty
        · rfl
    · simp only [if_neg hlarge, reduceCtorEq, false_iff]
      rintro (h | h)
      · exact hempty h
      · exact hlarge (lt_area_iff.mpr h)

end Canvas

end DrawingBoard

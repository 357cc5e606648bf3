/-
A fill, write by write.

`Canvas.fill` colors runs of positions of an array, and a position outside the array would
go unnoticed.  Here the same fill is told by single writes that do not forgive: `writes`
lists the pixels between the corners of the visible part, row by row, and counts them in
unsigned words, which would wrap round at a negative corner; `put?` colors one pixel, and
fails if the canvas has no such pixel.

The corners of the visible part are never negative, so the words are right
(`toNat_word`), the writes are the pixels of the area that the canvas has
(`mem_writes_iff`), and they all succeed.  A sequence of writes is described by `Colored`,
which tells each pixel of the canvas afterwards and hence the whole canvas
(`Colored.unique`).  A fill is described by it as well, so the two are equal
(`foldlM_put?_writes`).
-/
import DrawingBoard.Proofs.Drawing.Painting

namespace DrawingBoard

/-! ### Corners as unsigned words -/

/-- The unsigned word with the bits of a coordinate: it wraps round if that is negative. -/
def Coord.word (a : Coord) : UInt32 := UInt32.ofInt a.toInt

/-- From the origin on, a coordinate and its word are the same number. -/
theorem Coord.toNat_word {a : Coord} (h : 0 ≤ a.toInt) : (a.word.toNat : Int) = a.toInt := by
  have hupper := a.upper
  rw [word, UInt32.ofInt, UInt32.toNat_ofNat']
  omega

/-- A pixel as the machine counts it: column and row. -/
abbrev Spot := UInt32 × UInt32

def Spot.point (q : Spot) : Point := Point.ofPixel q.1.toNat q.2.toNat

/-- Does a surface of this size have the pixel? -/
def Size.Has (size : Size) (q : Spot) : Prop := q.1 < size.width ∧ q.2 < size.height

instance (size : Size) (q : Spot) : Decidable (size.Has q) := inferInstanceAs (Decidable (_ ∧ _))

theorem Size.has_iff {size : Size} {q : Spot} :
    size.Has q ↔ q.1.toNat < size.width.toNat ∧ q.2.toNat < size.height.toNat := by
  rw [Has, UInt32.lt_iff_toNat_lt, UInt32.lt_iff_toNat_lt]

namespace Rect

/-- The pixels between the corners of a rectangle, row by row, counted in words. -/
def spots (r : Rect) : List Spot :=
  (r.topLeft.y.word...r.bottomRight.y.word).toList.flatMap fun y =>
    (r.topLeft.x.word...r.bottomRight.x.word).toList.map fun x => (x, y)

theorem mem_spots_iff {r : Rect} {q : Spot} :
    q ∈ r.spots ↔ (r.topLeft.y.word ≤ q.2 ∧ q.2 < r.bottomRight.y.word) ∧
      r.topLeft.x.word ≤ q.1 ∧ q.1 < r.bottomRight.x.word := by
  obtain ⟨x, y⟩ := q
  simp only [spots, List.mem_flatMap, List.mem_map, Std.Rco.mem_toList_iff_mem, Std.Rco.mem_iff,
    Prod.mk.injEq]
  constructor
  · rintro ⟨y', hy, x', hx, rfl, rfl⟩
    exact ⟨hy, hx⟩
  · rintro ⟨hy, hx⟩
    exact ⟨y, hy, x, hx, rfl, rfl⟩

/-- The words for the corners of a rectangle on a surface are right. -/
structure WordsExact (r : Rect) : Prop where
  left : (r.topLeft.x.word.toNat : Int) = r.topLeft.x.toInt
  top : (r.topLeft.y.word.toNat : Int) = r.topLeft.y.toInt
  right : (r.bottomRight.x.word.toNat : Int) = r.bottomRight.x.toInt
  bottom : (r.bottomRight.y.word.toNat : Int) = r.bottomRight.y.toInt

theorem Within.wordsExact {r : Rect} {size : Size} (h : r.Within size) : r.WordsExact := by
  obtain ⟨hleft, hcolumns, -, htop, hrows, -⟩ := h
  exact ⟨Coord.toNat_word hleft, Coord.toNat_word htop, Coord.toNat_word (by omega),
    Coord.toNat_word (by omega)⟩

/-- Counted in words, the pixels of a rectangle on an addressable surface are its pixels. -/
theorem Within.mem_spots_iff {r : Rect} {size : Size} (h : r.Within size)
    (hsize : size.Addressable) {q : Spot} :
    q ∈ r.spots ↔ size.Has q ∧ r.contains q.point = true := by
  obtain ⟨hwidth, hheight⟩ := hsize
  obtain ⟨hleft, htop, hright, hbottom⟩ := h.wordsExact
  have hcolumns := h.right
  have hrows := h.bottom
  -- On an addressable surface `Point.ofPixel` has nothing to clamp.
  simp only [Rect.mem_spots_iff, Size.has_iff, contains_iff, Spot.point, Point.ofPixel,
    Coord.toInt_clamp, UInt32.le_iff_toNat_le, UInt32.lt_iff_toNat_lt]
  omega

end Rect

namespace Canvas

/-! ### Writes -/

/-- The pixels that a fill writes to, in the order in which it does so. -/
def writes (size : Size) (area : Rect) : List Spot :=
  match area.inter? size.bounds with
  | none => []
  | some visible => visible.spots

/-- A fill writes to the pixels of its area that the surface has, and to no others. -/
theorem mem_writes_iff {size : Size} (hsize : size.Addressable) {area : Rect} {q : Spot} :
    q ∈ writes size area ↔ size.Has q ∧ area.contains q.point = true := by
  have hbounds : size.Has q → size.bounds.contains q.point = true := fun h =>
    Size.contains_bounds (Size.has_iff.mp h).1 (Size.has_iff.mp h).2 hsize
  unfold writes
  cases hcut : area.inter? size.bounds with
  | none =>
      refine iff_of_false List.not_mem_nil fun ⟨hhas, harea⟩ => ?_
      exact Rect.not_contains_of_inter?_eq_none hcut _ ⟨harea, hbounds hhas⟩
  | some visible =>
      refine ((within_of_inter?_bounds hcut).mem_spots_iff hsize).trans
        (and_congr_right fun hhas => ?_)
      rw [Rect.contains_inter? hcut, and_iff_left (hbounds hhas)]

/-- The color of a pixel. -/
def color? (c : Canvas) (q : Spot) : Option Color := c.pixel? q.1.toNat q.2.toNat

theorem color?_eq {c : Canvas} {q : Spot} (h : c.size.Has q) :
    c.color? q = c.pixels[q.2.toNat * c.size.width.toNat + q.1.toNat]? :=
  pixel?_eq (Size.has_iff.mp h).1 (Size.has_iff.mp h).2

/-- Each position of the array is that of a pixel. -/
theorem exists_spot {size : Size} {i : Nat}
    (h : i < size.width.toNat * size.height.toNat) :
    ∃ q, size.Has q ∧ q.2.toNat * size.width.toNat + q.1.toNat = i := by
  have hwidth : 0 < size.width.toNat := Nat.pos_of_mul_pos_right (Nat.zero_lt_of_lt h)
  have hcolumn : i % size.width.toNat < size.width.toNat := Nat.mod_lt i hwidth
  have hrow : i / size.width.toNat < size.height.toNat := Nat.div_lt_of_lt_mul h
  have hx : (UInt32.ofNat (i % size.width.toNat)).toNat = i % size.width.toNat :=
    UInt32.toNat_ofNat_of_lt' (Nat.lt_trans hcolumn size.width.toNat_lt)
  have hy : (UInt32.ofNat (i / size.width.toNat)).toNat = i / size.width.toNat :=
    UInt32.toNat_ofNat_of_lt' (Nat.lt_trans hrow size.height.toNat_lt)
  refine ⟨(.ofNat (i % size.width.toNat), .ofNat (i / size.width.toNat)), ?_, ?_⟩
  · rw [Size.has_iff, hx, hy]
    exact ⟨hcolumn, hrow⟩
  · rw [hx, hy]
    exact Nat.div_add_mod' i size.width.toNat

/-- Canvases of one size are told apart by the color of some pixel. -/
theorem ext_color? {c c' : Canvas} (hsize : c.size = c'.size)
    (h : ∀ q, c.size.Has q → c.color? q = c'.color? q) : c = c' := by
  have hpixels : c.pixels = c'.pixels := by
    refine Array.ext (by rw [c.complete, c'.complete, hsize]) fun i hi hi' => ?_
    obtain ⟨q, hq, rfl⟩ := exists_spot (c.complete ▸ hi)
    have hcolor := h q hq
    rw [color?_eq hq, color?_eq (hsize ▸ hq), ← hsize, Array.getElem?_eq_getElem hi,
      Array.getElem?_eq_getElem hi'] at hcolor
    exact Option.some.inj hcolor
  cases c
  cases c'
  cases hsize
  cases hpixels
  rfl

/-- Writes a color to the position of a pixel. -/
def put (c : Canvas) (q : Spot) (color : Color) : Canvas :=
  ⟨c.size, c.pixels.setIfInBounds (q.2.toNat * c.size.width.toNat + q.1.toNat) color,
    (Array.size_setIfInBounds ..).trans c.complete⟩

/-- Gives one pixel a color.  There is no result if the canvas has no such pixel. -/
def put? (color : Color) (c : Canvas) (q : Spot) : Option Canvas :=
  if c.size.Has q then some (c.put q color) else none

/-- A position tells its pixel. -/
theorem position_eq_iff {stride x y x' y' : Nat} (hx : x < stride) (hx' : x' < stride) :
    y' * stride + x' = y * stride + x ↔ y' = y ∧ x' = x := by
  have hrun : (y' * stride + x' ≤ y * stride + x ∧ y * stride + x < y' * stride + x' + 1)
      ↔ y = y' ∧ x' ≤ x ∧ x < x' + 1 := position_mem_run hx hx'
  omega

/-- One pixel is written and the others stay. -/
theorem color?_put {c : Canvas} {q r : Spot} (hq : c.size.Has q) (hr : c.size.Has r)
    (color : Color) : (c.put q color).color? r = if r = q then some color else c.color? r := by
  obtain ⟨hx, hy⟩ := Size.has_iff.mp hq
  have hinside : q.2.toNat * c.size.width.toNat + q.1.toNat < c.pixels.size := by
    rw [c.complete]
    exact position_lt_area hx hy
  have hsame : q.2.toNat * c.size.width.toNat + q.1.toNat
      = r.2.toNat * c.size.width.toNat + r.1.toNat ↔ r = q := by
    rw [position_eq_iff (Size.has_iff.mp hr).1 hx, UInt32.toNat_inj, UInt32.toNat_inj,
      Prod.ext_iff, and_comm, eq_comm, eq_comm (a := q.2)]
  rw [color?_eq (show (c.put q color).size.Has r from hr), color?_eq hr, put,
    Array.getElem?_setIfInBounds, if_pos hinside]
  simp only [hsame]

/-- The one canvas is the other one with some pixels colored. -/
structure Colored (color : Color) (spots : List Spot) (c c' : Canvas) : Prop where
  size : c'.size = c.size
  color? : ∀ q, c.size.Has q → c'.color? q = if q ∈ spots then some color else c.color? q

namespace Colored

variable {color : Color} {c c' c'' : Canvas} {spots : List Spot}

theorem nil (color : Color) (c : Canvas) : Colored color [] c c where
  size := rfl
  color? _ _ := (if_neg List.not_mem_nil).symm

/-- Pixels may be colored one after the other. -/
theorem cons {q : Spot} (h : Colored color [q] c c') (h' : Colored color spots c' c'') :
    Colored color (q :: spots) c c'' where
  size := h'.size.trans h.size
  color? r hr := by
    rw [h'.color? r (by rwa [h.size]), h.color? r hr]
    by_cases hrest : r ∈ spots
    · rw [if_pos hrest, if_pos (List.mem_cons_of_mem q hrest)]
    · simp only [List.mem_cons, if_neg hrest, or_iff_left hrest, List.not_mem_nil, or_false]

/-- A canvas is known by its pixels, so only one can be the result. -/
theorem unique (h : Colored color spots c c') (h' : Colored color spots c c'') : c' = c'' :=
  ext_color? (h.size.trans h'.size.symm) fun q hq => by
    rw [h.size] at hq
    rw [h.color? q hq, h'.color? q hq]

end Colored

/-- A pixel of the canvas can be given a color. -/
theorem exists_put? (color : Color) {c : Canvas} {q : Spot} (h : c.size.Has q) :
    ∃ c', put? color c q = some c' ∧ Colored color [q] c c' := by
  refine ⟨c.put q color, if_pos h, rfl, fun r hr => ?_⟩
  rw [color?_put h hr]
  simp only [List.mem_singleton]

/-- Pixels of the canvas can be given a color one after the other. -/
theorem exists_foldlM_put? (color : Color) :
    ∀ {spots : List Spot} {c : Canvas}, (∀ q ∈ spots, c.size.Has q) →
      ∃ c', spots.foldlM (put? color) c = some c' ∧ Colored color spots c c' := by
  intro spots
  induction spots with
  | nil => exact fun {c} _ => ⟨c, rfl, .nil color c⟩
  | cons q rest ih =>
      intro c h
      obtain ⟨c', hput, hone⟩ := exists_put? color (h q List.mem_cons_self)
      -- A write keeps the size, so the other pixels are pixels of the new canvas as well.
      obtain ⟨c'', hfold, hrest⟩ := ih (c := c') fun r hr => by
        rw [hone.size]
        exact h r (List.mem_cons_of_mem q hr)
      refine ⟨c'', ?_, hone.cons hrest⟩
      rw [List.foldlM_cons, hput]
      exact hfold

/-- A fill colors the pixels to which it writes. -/
theorem colored_fill {c : Canvas} (hsize : c.size.Addressable) (area : Rect) (color : Color) :
    Colored color (writes c.size area) c (c.fill area color) where
  size := size_fill ..
  color? q hq := by
    obtain ⟨hx, hy⟩ := Size.has_iff.mp hq
    rw [color?, color?, pixel?_fill c hsize area color hx hy]
    simp only [mem_writes_iff hsize, hq, true_and]
    rfl

/-- **A fill is the sequence of its writes**, none of which misses the canvas. -/
theorem foldlM_put?_writes {c : Canvas} (hsize : c.size.Addressable) (area : Rect)
    (color : Color) : (writes c.size area).foldlM (put? color) c = some (c.fill area color) := by
  have hhas : ∀ q ∈ writes c.size area, c.size.Has q := fun q hq =>
    ((mem_writes_iff hsize).mp hq).1
  obtain ⟨c', hfold, hcolored⟩ := exists_foldlM_put? color hhas
  rw [hfold, hcolored.unique (colored_fill hsize area color)]

/-! ### Pixels after fills -/

/-- Outside the canvas, and only there, no pixel has a color. -/
theorem pixel?_eq_none_iff {c : Canvas} {x y : Nat} :
    c.pixel? x y = none ↔ ¬ (x < c.size.width.toNat ∧ y < c.size.height.toNat) := by
  constructor
  · rintro hnone ⟨hx, hy⟩
    have hsome := c.pixel?_isSome hx hy
    simp [hnone] at hsome
  · exact fun hout => if_neg hout

/--
**A fill paints its area and nothing else.**

On a canvas with sides within the coordinate range, a fill gives its color to the pixels that
the area holds, whatever the corners of the area are, and leaves the other pixels and the size
as they were; there are no pixels but those of the size.  The corners of the part that is
visible are exact as unsigned words, each write goes to a pixel of the canvas, and the writes
together are the fill.  So filling the bounds colors the whole canvas, and after any fills of a
blank canvas a pixel has the color of the last one whose area holds it, or is transparent.
-/
theorem fill_exact (c : Canvas) (hsize : c.size.Addressable) (area : Rect) (color : Color)
    (calls : List (Rect × Color)) :
    (c.fill area color).size = c.size ∧
      (∀ x y, (c.fill area color).pixel? x y = none ↔
        ¬ (x < c.size.width.toNat ∧ y < c.size.height.toNat)) ∧
      (∀ visible, area.inter? c.size.bounds = some visible → visible.WordsExact) ∧
      (∀ q ∈ writes c.size area, c.size.Has q) ∧
      (writes c.size area).foldlM (put? color) c = some (c.fill area color) ∧
      ∀ x y, x < c.size.width.toNat → y < c.size.height.toNat →
        (c.fill area color).pixel? x y
            = (if area.contains (Point.ofPixel x y) then some color else c.pixel? x y) ∧
          (c.fill (Surface.bounds c) color).pixel? x y = some color ∧
          (Surface.fillAll (blank c.size) calls).pixel? x y
            = some (((calls.reverse.find? (·.1.contains (Point.ofPixel x y))).map (·.2)).getD
                Color.transparent) := by
  refine ⟨size_fill .., fun x y => ?_, fun visible hcut => ?_, fun q hq => ?_,
    foldlM_put?_writes hsize area color, fun x y hx hy => ⟨?_, ?_, ?_⟩⟩
  · rw [pixel?_eq_none_iff, size_fill]
  · exact (within_of_inter?_bounds hcut).wordsExact
  · exact ((mem_writes_iff hsize).mp hq).1
  · exact pixel?_fill c hsize area color hx hy
  · rw [pixel?_fill c hsize _ color hx hy]
    exact if_pos (Size.contains_bounds hx hy hsize)
  · exact pixel?_fillAll_blank hsize calls hx hy

/-- An area that begins at the left end of the coordinate space and ends at the lower one. -/
def overhang : Rect :=
  ⟨⟨Coord.clamp (-2147483648), Coord.clamp 8⟩, ⟨Coord.clamp 3, Coord.clamp 2147483647⟩⟩

/-- On a small canvas two rows of three pixels are left of it, and these are written. -/
theorem fill_exact_overhang :
    let c := blank ⟨10, 10⟩
    let visible : Rect := ⟨⟨0, Coord.clamp 8⟩, ⟨Coord.clamp 3, Coord.clamp 10⟩⟩
    c.size.Addressable ∧
      overhang.inter? c.size.bounds = some visible ∧ visible.WordsExact ∧
      (2, 9) ∈ writes c.size overhang ∧ c.size.Has (2, 9) ∧
      (writes c.size overhang).foldlM (put? Color.black) c
        = some (c.fill overhang Color.black) ∧
      (c.fill overhang Color.black).pixel? 2 9 = some Color.black ∧
      (c.fill overhang Color.black).pixel? 3 9 = c.pixel? 3 9 ∧
      (c.fill overhang Color.black).pixel? 10 9 = none ∧
      (c.fill (Surface.bounds c) Color.black).pixel? 3 9 = some Color.black ∧
      (Surface.fillAll (blank c.size)
        [(overhang, Color.black), (Size.bounds ⟨2, 9⟩, Color.white)]).pixel? 1 8
          = some Color.white := by
  intro c visible
  have hsize : c.size.Addressable := by constructor <;> decide
  have hcut : overhang.inter? c.size.bounds = some visible := by decide
  have hmem : (2, 9) ∈ writes c.size overhang :=
    (mem_writes_iff hsize).mpr ⟨by decide, by decide⟩
  obtain ⟨-, hnone, hwords, hhas, hwrites, hpixels⟩ := fill_exact c hsize overhang Color.black
    [(overhang, Color.black), (Size.bounds ⟨2, 9⟩, Color.white)]
  obtain ⟨hinside, -⟩ := hpixels 2 9 (by decide) (by decide)
  obtain ⟨houtside, hbounds, -⟩ := hpixels 3 9 (by decide) (by decide)
  obtain ⟨-, -, hlast⟩ := hpixels 1 8 (by decide) (by decide)
  refine ⟨hsize, hcut, hwords visible hcut, hmem, hhas _ hmem, hwrites,
    hinside.trans (if_pos (by decide)), houtside.trans (if_neg (by decide)),
    (hnone 10 9).mpr (by decide), hbounds, hlast.trans ?_⟩
  decide

end Canvas

end DrawingBoard

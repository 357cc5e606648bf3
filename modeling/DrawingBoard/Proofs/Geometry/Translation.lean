/-
What is left of a rectangle that is shifted many times.

The two axes do not mix, so everything is said of one axis at a time: a rectangle has a
span of columns and a span of rows, and a shift shifts both (`xSpan_foldl_translate`).
The edges of a span stop at the ends of the coordinate space each on its own.  A shift
that carries an edge past the end brings the edges closer to each other, and no later
shift parts them again.  So a span never becomes longer, and it keeps its length exactly
if it would never have reached beyond the ends, had it not been stopped
(`remains_shiftAll`).

Lengths are exact here.  The width of a rectangle is the length of its columns as far as
that is a coordinate.
-/
import DrawingBoard.Geometry.Rect
import Mathlib.Algebra.Ring.Int.Defs
import Mathlib.Data.List.Infix

namespace DrawingBoard

/-- The part of an axis from `lo` on, up to and without `hi`. -/
structure Span where
  lo : Coord
  hi : Coord
deriving DecidableEq

theorem Coord.add_zero (a : Coord) : a + 0 = a := by
  show Coord.clamp (a.toInt + 0) = a
  rw [Int.add_zero, Coord.clamp_toInt]

namespace Span

/-- The distance between the edges. -/
def length (s : Span) : Int := s.hi.toInt - s.lo.toInt

/-- The span shifted by `d`. -/
def shift (s : Span) (d : Coord) : Span := ⟨s.lo + d, s.hi + d⟩

/-- The span shifted several times, one after the other. -/
def shiftAll (s : Span) (ds : List Coord) : Span := ds.foldl shift s

/-- The shift by `d` carries no edge past the ends of the coordinate space. -/
def Clears (s : Span) (d : Coord) : Prop :=
  -2147483648 ≤ s.lo.toInt + d.toInt ∧ s.hi.toInt + d.toInt ≤ 2147483647

/-- After each of several shifts the span would lie inside the coordinate space, if nothing had
been stopped before. -/
def StaysInside (s : Span) (ds : List Coord) : Prop :=
  ∀ past ∈ ds.inits,
    -2147483648 ≤ s.lo.toInt + (past.map Coord.toInt).sum ∧
      s.hi.toInt + (past.map Coord.toInt).sum ≤ 2147483647

instance (s : Span) (ds : List Coord) : Decidable (s.StaysInside ds) :=
  inferInstanceAs (Decidable (∀ past ∈ ds.inits, _))

/-- What several shifts `ds` have left of a span. -/
structure Remains (s : Span) (ds : List Coord) (left : Span) : Prop where
  ordered : left.lo ≤ left.hi
  shorter : left.length ≤ s.length
  kept_iff : left.length = s.length ↔ s.StaysInside ds

theorem length_pos_iff {s : Span} : 0 < s.length ↔ s.lo < s.hi := by
  rw [Coord.lt_def, length]
  omega

/-! ### One shift -/

/-- Edges in order stay in order. -/
theorem lo_le_hi_shift {s : Span} (h : s.lo ≤ s.hi) (d : Coord) :
    (s.shift d).lo ≤ (s.shift d).hi := by
  rw [Coord.le_def] at h ⊢
  simp only [shift, Coord.toInt_add]
  omega

theorem length_shift_le {s : Span} (h : s.lo ≤ s.hi) (d : Coord) :
    (s.shift d).length ≤ s.length := by
  rw [Coord.le_def] at h
  simp only [length, shift, Coord.toInt_add]
  omega

/-- An edge that is stopped comes closer to the other one. -/
theorem length_shift_eq_iff {s : Span} (h : s.lo < s.hi) (d : Coord) :
    (s.shift d).length = s.length ↔ s.Clears d := by
  rw [Coord.lt_def] at h
  simp only [length, shift, Coord.toInt_add, Clears]
  omega

/-- A span that is not stopped at once is where it should be, so it goes on from there. -/
theorem staysInside_cons_iff {s : Span} (h : s.lo ≤ s.hi) {d : Coord} {rest : List Coord} :
    s.StaysInside (d :: rest) ↔ s.Clears d ∧ (s.shift d).StaysInside rest := by
  rw [Coord.le_def] at h
  have hlo := s.lo.lower
  have hhi := s.hi.upper
  have hshift : s.Clears d → (s.shift d).lo.toInt = s.lo.toInt + d.toInt ∧
      (s.shift d).hi.toInt = s.hi.toInt + d.toInt := by
    intro hclears
    simp only [Clears] at hclears
    simp only [shift, Coord.toInt_add]
    omega
  simp only [StaysInside, List.inits_cons, List.mem_cons, List.mem_map, forall_eq_or_imp,
    forall_exists_index, and_imp, forall_apply_eq_imp_iff₂, List.map_nil, List.sum_nil,
    List.map_cons, List.sum_cons]
  constructor
  · rintro ⟨-, hpast⟩
    have hclears : s.Clears d := by simpa [Clears] using hpast [] (by simp)
    refine ⟨hclears, fun past hmem => ?_⟩
    have hthen := hpast past hmem
    rw [(hshift hclears).1, (hshift hclears).2]
    omega
  · rintro ⟨hclears, hpast⟩
    refine ⟨by omega, fun past hmem => ?_⟩
    have hthen := hpast past hmem
    rw [(hshift hclears).1, (hshift hclears).2] at hthen
    omega

/-! ### Many shifts -/

theorem lo_le_hi_shiftAll (ds : List Coord) :
    ∀ {s : Span}, s.lo ≤ s.hi → (s.shiftAll ds).lo ≤ (s.shiftAll ds).hi := by
  induction ds with
  | nil => intro s h; exact h
  | cons d rest ih => intro s h; exact ih (lo_le_hi_shift h d)

theorem length_shiftAll_le (ds : List Coord) :
    ∀ {s : Span}, s.lo ≤ s.hi → (s.shiftAll ds).length ≤ s.length := by
  induction ds with
  | nil => intro s _; exact Int.le_refl _
  | cons d rest ih =>
      intro s h
      exact Int.le_trans (ih (lo_le_hi_shift h d)) (length_shift_le h d)

theorem length_shiftAll_eq_iff (ds : List Coord) :
    ∀ {s : Span}, s.lo < s.hi → ((s.shiftAll ds).length = s.length ↔ s.StaysInside ds) := by
  induction ds with
  | nil =>
      intro s _
      simp [shiftAll, StaysInside, s.lo.lower, s.hi.upper]
  | cons d rest ih =>
      intro s h
      have hle : s.lo ≤ s.hi := Int.le_of_lt h
      have hfirst : (s.shift d).length ≤ s.length := length_shift_le hle d
      have hrest : ((s.shift d).shiftAll rest).length ≤ (s.shift d).length :=
        length_shiftAll_le rest (lo_le_hi_shift hle d)
      have hpos : (s.shift d).length = s.length → (s.shift d).lo < (s.shift d).hi :=
        fun hkept => length_pos_iff.mp (hkept ▸ length_pos_iff.mpr h)
      rw [staysInside_cons_iff hle, ← length_shift_eq_iff h d]
      constructor
      · intro hwhole
        -- What the first shift takes away does not come back, so it has taken nothing.
        have hkept : (s.shift d).length = s.length := Int.le_antisymm hfirst (hwhole ▸ hrest)
        exact ⟨hkept, (ih (hpos hkept)).mp (hwhole.trans hkept.symm)⟩
      · rintro ⟨hkept, hinside⟩
        exact ((ih (hpos hkept)).mpr hinside).trans hkept

/-- **A span keeps its length exactly if it stays inside the coordinate space, and never becomes
longer.** -/
theorem remains_shiftAll {s : Span} (h : s.lo < s.hi) (ds : List Coord) :
    s.Remains ds (s.shiftAll ds) where
  ordered := lo_le_hi_shiftAll ds (Int.le_of_lt h)
  shorter := length_shiftAll_le ds (Int.le_of_lt h)
  kept_iff := length_shiftAll_eq_iff ds h

end Span

/-! ### Rectangles -/

namespace Rect

/-- The offset that leads nowhere leaves a rectangle where it is. -/
theorem translate_zero (r : Rect) : r.translate .zero = r := by
  show Rect.mk ⟨r.topLeft.x + 0, r.topLeft.y + 0⟩ ⟨r.bottomRight.x + 0, r.bottomRight.y + 0⟩ = r
  simp only [Coord.add_zero]

/-- The columns of a rectangle. -/
def xSpan (r : Rect) : Span := ⟨r.topLeft.x, r.bottomRight.x⟩

/-- The rows of a rectangle. -/
def ySpan (r : Rect) : Span := ⟨r.topLeft.y, r.bottomRight.y⟩

theorem width_eq_clamp (r : Rect) : r.width = Coord.clamp r.xSpan.length := rfl

theorem height_eq_clamp (r : Rect) : r.height = Coord.clamp r.ySpan.length := rfl

theorem xSpan_foldl_translate (ds : List Point) :
    ∀ r : Rect, (ds.foldl translate r).xSpan = r.xSpan.shiftAll (ds.map (·.x)) := by
  induction ds with
  | nil => intro r; rfl
  | cons d rest ih => intro r; exact ih (r.translate d)

theorem ySpan_foldl_translate (ds : List Point) :
    ∀ r : Rect, (ds.foldl translate r).ySpan = r.ySpan.shiftAll (ds.map (·.y)) := by
  induction ds with
  | nil => intro r; rfl
  | cons d rest ih => intro r; exact ih (r.translate d)

end Rect

end DrawingBoard

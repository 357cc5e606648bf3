/-
What rectangles have in common.

`inter?` decides by the extents of the common part whether there is any, and an
extent stops at the ends of the coordinate range.  `contains` compares corners.
The two agree because stopping never changes the sign of a difference: an extent
is positive exactly if the corners are in order (`isEmpty_iff`), and the rest is
integer arithmetic on each axis.

So a common part is the set of the pixels that are common (`covers_inter?`).  It
is also the only rectangle with these pixels: a rectangle that is not empty holds
its first and its last pixel, and these two tell its corners
(`eq_of_contains_iff`).  What is true of sets of pixels therefore carries over to
common parts, and neither the order of the rectangles nor the grouping matters
(`common_pixels`).
-/
import DrawingBoard.Geometry.Rect

namespace DrawingBoard

namespace Rect

/-- Extents may stop at the end of the range, but their signs are right. -/
theorem isEmpty_iff {r : Rect} :
    r.isEmpty = true ↔
      r.bottomRight.x.toInt ≤ r.topLeft.x.toInt ∨ r.bottomRight.y.toInt ≤ r.topLeft.y.toInt := by
  simp only [isEmpty, width, height, Bool.or_eq_true, decide_eq_true_eq, Coord.le_def,
    Coord.toInt_sub, Coord.toInt_zero]
  omega

theorem isEmpty_eq_false_iff {r : Rect} :
    r.isEmpty = false ↔
      r.topLeft.x.toInt < r.bottomRight.x.toInt ∧ r.topLeft.y.toInt < r.bottomRight.y.toInt := by
  rw [← Bool.not_eq_true, isEmpty_iff]
  omega

/-- The common part has the inner one of the two edges on every side. -/
theorem inter?_eq_some {r s t : Rect} (h : r.inter? s = some t) :
    t = ⟨⟨max r.topLeft.x s.topLeft.x, max r.topLeft.y s.topLeft.y⟩,
         ⟨min r.bottomRight.x s.bottomRight.x, min r.bottomRight.y s.bottomRight.y⟩⟩ ∧
      t.isEmpty = false := by
  simp only [inter?] at h
  split at h
  · simp at h
  · rename_i hne
    simp only [Option.some.injEq] at h
    subst h
    exact ⟨rfl, by simpa using hne⟩

/-- The common part holds the pixels of both. -/
theorem contains_inter? {r s t : Rect} (h : r.inter? s = some t) (p : Point) :
    t.contains p = true ↔ r.contains p = true ∧ s.contains p = true := by
  obtain ⟨rfl, -⟩ := inter?_eq_some h
  simp only [contains_iff, Coord.toInt_max, Coord.toInt_min]
  omega

/-- Without a common part no pixel belongs to both. -/
theorem not_contains_of_inter?_eq_none {r s : Rect} (h : r.inter? s = none) (p : Point) :
    ¬ (r.contains p = true ∧ s.contains p = true) := by
  simp only [inter?] at h
  split at h
  · rename_i hempty
    rw [isEmpty_iff] at hempty
    simp only [contains_iff, Coord.toInt_max, Coord.toInt_min] at hempty ⊢
    omega
  · simp at h

/-! ### A rectangle is told by its pixels -/

/-- A rectangle that is not empty holds its first pixel. -/
theorem contains_topLeft {r : Rect} (h : r.isEmpty = false) :
    r.contains r.topLeft = true := by
  rw [isEmpty_eq_false_iff] at h
  rw [contains_iff]
  omega

/-- A rectangle is empty exactly if it holds no pixel. -/
theorem isEmpty_iff_forall_not_contains {r : Rect} :
    r.isEmpty = true ↔ ∀ p, ¬ r.contains p = true := by
  constructor
  · intro h p hp
    rw [isEmpty_iff] at h
    rw [contains_iff] at hp
    omega
  · intro h
    cases hr : r.isEmpty with
    | false => exact absurd (contains_topLeft hr) (h r.topLeft)
    | true => rfl

/-- The last pixel before the bottom right corner. -/
def lastPixel (r : Rect) : Point :=
  ⟨Coord.clamp (r.bottomRight.x.toInt - 1), Coord.clamp (r.bottomRight.y.toInt - 1)⟩

/-- Some coordinate is below the right and the bottom edge, so there is no need to stop one
before them. -/
theorem toInt_lastPixel {r : Rect} (h : r.isEmpty = false) :
    r.lastPixel.x.toInt = r.bottomRight.x.toInt - 1 ∧
      r.lastPixel.y.toInt = r.bottomRight.y.toInt - 1 := by
  rw [isEmpty_eq_false_iff] at h
  have hleft := r.topLeft.x.lower
  have htop := r.topLeft.y.lower
  have hright := r.bottomRight.x.upper
  have hbottom := r.bottomRight.y.upper
  exact ⟨Coord.toInt_clamp_of_le (by omega) (by omega),
    Coord.toInt_clamp_of_le (by omega) (by omega)⟩

theorem contains_lastPixel {r : Rect} (h : r.isEmpty = false) :
    r.contains r.lastPixel = true := by
  obtain ⟨hx, hy⟩ := toInt_lastPixel h
  rw [isEmpty_eq_false_iff] at h
  rw [contains_iff, hx, hy]
  omega

/-- A rectangle whose pixels belong to another one lies between its edges. -/
theorem edges_of_forall_contains {r s : Rect} (hr : r.isEmpty = false)
    (h : ∀ p, r.contains p = true → s.contains p = true) :
    (s.topLeft.x.toInt ≤ r.topLeft.x.toInt ∧ s.topLeft.y.toInt ≤ r.topLeft.y.toInt) ∧
      r.bottomRight.x.toInt ≤ s.bottomRight.x.toInt ∧
        r.bottomRight.y.toInt ≤ s.bottomRight.y.toInt := by
  have hfirst := contains_iff.mp (h _ (contains_topLeft hr))
  have hlast := contains_iff.mp (h _ (contains_lastPixel hr))
  obtain ⟨hx, hy⟩ := toInt_lastPixel hr
  omega

theorem eq_of_edges {r s : Rect} (hleft : r.topLeft.x.toInt = s.topLeft.x.toInt)
    (htop : r.topLeft.y.toInt = s.topLeft.y.toInt)
    (hright : r.bottomRight.x.toInt = s.bottomRight.x.toInt)
    (hbottom : r.bottomRight.y.toInt = s.bottomRight.y.toInt) : r = s := by
  obtain ⟨⟨_, _⟩, ⟨_, _⟩⟩ := r
  obtain ⟨⟨_, _⟩, ⟨_, _⟩⟩ := s
  cases Coord.ext hleft
  cases Coord.ext htop
  cases Coord.ext hright
  cases Coord.ext hbottom
  rfl

/-- Two rectangles with the same pixels are the same, unless they have none. -/
theorem eq_of_contains_iff {r s : Rect} (hr : r.isEmpty = false) (hs : s.isEmpty = false)
    (h : ∀ p, r.contains p = true ↔ s.contains p = true) : r = s := by
  have hinside := edges_of_forall_contains hr fun p => (h p).mp
  have haround := edges_of_forall_contains hs fun p => (h p).mpr
  exact eq_of_edges (by omega) (by omega) (by omega) (by omega)

/-! ### Common parts as sets of pixels -/

/-- Does a pixel belong to a common part?  No pixel does where there is none. -/
def Covers (part : Option Rect) (p : Point) : Prop := ∃ r ∈ part, r.contains p = true

/-- Common parts are never empty rectangles. -/
def Proper (part : Option Rect) : Prop := ∀ r ∈ part, r.isEmpty = false

/-- **The common part holds the pixels that both hold**, and there is one if there are any. -/
theorem covers_inter? {a b : Rect} {p : Point} :
    Covers (a.inter? b) p ↔ a.contains p = true ∧ b.contains p = true := by
  cases hab : a.inter? b with
  | none => simp [Covers, not_contains_of_inter?_eq_none hab p]
  | some r => simp [Covers, contains_inter? hab p]

theorem proper_inter? (a b : Rect) : Proper (a.inter? b) :=
  fun _ h => (inter?_eq_some h).2

/-- There is no common part exactly if no pixel is common. -/
theorem Proper.eq_none_iff {part : Option Rect} (h : Proper part) :
    part = none ↔ ∀ p, ¬ Covers part p := by
  cases part with
  | none => simp [Covers]
  | some r =>
      have hcovered : Covers (some r) r.topLeft := ⟨r, rfl, contains_topLeft (h r rfl)⟩
      exact iff_of_false (by simp) fun hnone => hnone _ hcovered

/-- Parts with the same pixels are the same. -/
theorem Proper.eq_of_covers_iff {part part' : Option Rect} (h : Proper part)
    (h' : Proper part') (hsame : ∀ p, Covers part p ↔ Covers part' p) : part = part' := by
  cases part with
  | none =>
      have hnone : ∀ p, ¬ Covers part' p := fun p hp => h.eq_none_iff.mp rfl p ((hsame p).mpr hp)
      exact (h'.eq_none_iff.mpr hnone).symm
  | some r =>
      cases part' with
      | none =>
          have hnone : ∀ p, ¬ Covers (some r) p := fun p hp =>
            h'.eq_none_iff.mp rfl p ((hsame p).mp hp)
          exact h.eq_none_iff.mpr hnone
      | some s =>
          refine congrArg some (eq_of_contains_iff (h r rfl) (h' s rfl) fun p => ?_)
          simpa [Covers] using hsame p

theorem inter?_comm (a b : Rect) : a.inter? b = b.inter? a :=
  (proper_inter? a b).eq_of_covers_iff (proper_inter? b a) fun p => by
    rw [covers_inter?, covers_inter?, and_comm]

/-- What a part has in common with one more rectangle. -/
theorem covers_bind_inter? {part : Option Rect} {c : Rect} {p : Point} :
    Covers (part.bind (·.inter? c)) p ↔ Covers part p ∧ c.contains p = true := by
  cases part with
  | none => simp [Covers]
  | some r => simpa [Covers] using covers_inter? (a := r) (b := c) (p := p)

theorem proper_bind_inter? (part : Option Rect) (c : Rect) : Proper (part.bind (·.inter? c)) := by
  cases part with
  | none => simp [Proper]
  | some r => exact proper_inter? r c

theorem inter?_assoc (a b c : Rect) :
    (a.inter? b).bind (·.inter? c) = (b.inter? c).bind (a.inter? ·) := by
  have hflip : (b.inter? c).bind (a.inter? ·) = (b.inter? c).bind (·.inter? a) :=
    congrArg _ (funext fun r => inter?_comm a r)
  rw [hflip]
  refine (proper_bind_inter? _ c).eq_of_covers_iff (proper_bind_inter? _ a) fun p => ?_
  rw [covers_bind_inter?, covers_bind_inter?, covers_inter?, covers_inter?]
  exact ⟨fun ⟨⟨ha, hb⟩, hc⟩ => ⟨⟨hb, hc⟩, ha⟩, fun ⟨⟨hb, hc⟩, ha⟩ => ⟨⟨ha, hb⟩, hc⟩⟩

/--
**A common part is the set of the common pixels.**

Two rectangles, with their corners in any order and anywhere in the coordinate space, have a
common part exactly if they have a pixel in common.  The part holds the pixels that both
hold, it is not empty, and its top left corner is one of its pixels.  Neither the order nor
the grouping of the rectangles changes it.  And although extents stop at the ends of the
coordinate space, a rectangle counts as empty exactly if it holds no pixel.
-/
theorem common_pixels (a b c : Rect) :
    (∀ r, a.inter? b = some r →
      (∀ p, r.contains p = true ↔ a.contains p = true ∧ b.contains p = true) ∧
        r.isEmpty = false ∧ r.contains r.topLeft = true) ∧
      (a.inter? b = none ↔ ∀ p, ¬ (a.contains p = true ∧ b.contains p = true)) ∧
      a.inter? b = b.inter? a ∧
      (a.inter? b).bind (·.inter? c) = (b.inter? c).bind (a.inter? ·) ∧
      (∀ p, Covers ((a.inter? b).bind (·.inter? c)) p ↔
        a.contains p = true ∧ b.contains p = true ∧ c.contains p = true) ∧
      (a.isEmpty = true ↔ ∀ p, ¬ a.contains p = true) := by
  have hproper := proper_inter? a b
  refine ⟨fun r hr => ?_, ?_, inter?_comm a b, inter?_assoc a b c, fun p => ?_,
    isEmpty_iff_forall_not_contains⟩
  · exact ⟨contains_inter? hr, hproper r hr, contains_topLeft (hproper r hr)⟩
  · rw [hproper.eq_none_iff]
    exact forall_congr' fun p => not_congr covers_inter?
  · rw [covers_bind_inter?, covers_inter?, and_assoc]

/-- As much of the coordinate space as a rectangle can hold. -/
def space : Rect :=
  ⟨⟨Coord.clamp (-2147483648), Coord.clamp (-2147483648)⟩,
    ⟨Coord.clamp 2147483647, Coord.clamp 2147483647⟩⟩

/-- A rectangle around the origin. -/
def plot : Rect := ⟨⟨Coord.clamp (-5), Coord.clamp (-8)⟩, ⟨Coord.clamp 3, Coord.clamp 2⟩⟩

/-- A rectangle with its left and right edges reversed, as far apart as they can be. -/
def reversed : Rect :=
  ⟨⟨Coord.clamp 2147483647, Coord.clamp (-8)⟩, ⟨Coord.clamp (-2147483648), Coord.clamp 2⟩⟩

/-- Extents of almost twice the largest coordinate, in order and reversed. -/
theorem common_pixels_space :
    space.width = Coord.clamp 2147483647 ∧ reversed.width = Coord.clamp (-2147483648) ∧
      space.inter? plot = some plot ∧
      (∀ p, plot.contains p = true ↔ space.contains p = true ∧ plot.contains p = true) ∧
      plot.isEmpty = false ∧ plot.contains plot.topLeft = true ∧
      (∀ p, ¬ (space.contains p = true ∧ reversed.contains p = true)) ∧
      (∀ p, ¬ reversed.contains p = true) := by
  have hplot : space.inter? plot = some plot := by decide
  obtain ⟨hsome, -⟩ := common_pixels space plot reversed
  obtain ⟨hpixels, hne, hfirst⟩ := hsome plot hplot
  obtain ⟨-, hnone, -⟩ := common_pixels space reversed plot
  obtain ⟨-, -, -, -, -, hempty⟩ := common_pixels reversed space plot
  exact ⟨by decide, by decide, hplot, hpixels, hne, hfirst, hnone.mp (by decide),
    hempty.mp (by decide)⟩

end Rect

end DrawingBoard

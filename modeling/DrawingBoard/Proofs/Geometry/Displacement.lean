/-
Where shifts lead, if nothing is stopped.

A coordinate that would leave the coordinate space stops at its end, so shifts do not add
up in general.  They do as long as every place on the way exists: then the way is what the
plain integers say, and shifts in any number come to their sum
(`StaysInside.displaced`).  In particular the ways from point to point along a path come to
the way from its first point to its last (`sum_ways`).

That a place exists is said by a point or a rectangle that is there, with its coordinates
as plain integers.  A sum of ways may be longer than any single coordinate, so it is a pair
of integers as well.
-/
import DrawingBoard.Geometry.Relative
import Mathlib.Algebra.BigOperators.Group.List.Basic
import Mathlib.Algebra.Group.Prod
import Mathlib.Data.List.Infix
import Mathlib.Tactic.Abel

namespace DrawingBoard

namespace Point

/-- The coordinates as plain integers. -/
def vec (p : Point) : ℤ × ℤ := (p.x.toInt, p.y.toInt)

theorem vec_injective {p q : Point} (h : p.vec = q.vec) : p = q := by
  obtain ⟨px, py⟩ := p
  obtain ⟨qx, qy⟩ := q
  obtain ⟨hx, hy⟩ := Prod.mk.inj h
  exact congrArg₂ mk (Coord.ext hx) (Coord.ext hy)

theorem x_of_vec {p q : Point} {v : ℤ × ℤ} (h : q.vec = p.vec + v) :
    q.x.toInt = p.x.toInt + v.1 := congrArg Prod.fst h

theorem y_of_vec {p q : Point} {v : ℤ × ℤ} (h : q.vec = p.vec + v) :
    q.y.toInt = p.y.toInt + v.2 := congrArg Prod.snd h

/-- A sum that exists is the sum. -/
theorem add_eq_of_vec {p d q : Point} (h : q.vec = p.vec + d.vec) : p + d = q := by
  obtain ⟨hx, hy⟩ := Prod.mk.inj h
  refine vec_injective (Prod.ext ?_ ?_)
  · exact (Coord.toInt_clamp_of_le (hx ▸ q.x.lower) (hx ▸ q.x.upper)).trans hx.symm
  · exact (Coord.toInt_clamp_of_le (hy ▸ q.y.lower) (hy ▸ q.y.upper)).trans hy.symm

/-- The way from one point to another fits in coordinates. -/
def Apart (p q : Point) : Prop := ∃ d : Point, d.vec = q.vec - p.vec

theorem Apart.vec_sub {p q : Point} (h : p.Apart q) : (q - p).vec = q.vec - p.vec := by
  obtain ⟨d, hd⟩ := h
  obtain ⟨hx, hy⟩ := Prod.mk.inj hd
  refine Prod.ext ?_ ?_
  · exact Coord.toInt_clamp_of_le (hx ▸ d.x.lower) (hx ▸ d.x.upper)
  · exact Coord.toInt_clamp_of_le (hy ▸ d.y.lower) (hy ▸ d.y.upper)

theorem apart_iff {p q : Point} : p.Apart q ↔ (q - p).vec = q.vec - p.vec :=
  ⟨Apart.vec_sub, fun h => ⟨_, h⟩⟩

instance (p q : Point) : Decidable (p.Apart q) := decidable_of_iff _ apart_iff.symm

/-- The ways from one point to the next. -/
def ways (first : Point) : List Point → List Point
  | [] => []
  | p :: rest => (p - first) :: ways p rest

/-- **The ways between neighbours add up to the way from the first point to the last**, if each of
them fits in coordinates. -/
theorem sum_ways (ps : List Point) :
    ∀ {first : Point}, (first :: ps).IsChain Apart →
      ((first.ways ps).map vec).sum = (ps.getLastD first).vec - first.vec := by
  induction ps with
  | nil => intro first _; exact (sub_self _).symm
  | cons p rest ih =>
      intro first h
      obtain ⟨hfirst, hrest⟩ := List.isChain_cons_cons.mp h
      rw [ways, List.map_cons, List.sum_cons, ih hrest, hfirst.vec_sub, List.getLastD_cons]
      abel

end Point

namespace Rect

/-- The second rectangle lies where the first one would be after a shift, edge by edge. -/
structure Displaced (r : Rect) (v : ℤ × ℤ) (s : Rect) : Prop where
  topLeft : s.topLeft.vec = r.topLeft.vec + v
  bottomRight : s.bottomRight.vec = r.bottomRight.vec + v

/-- After each of several shifts the rectangle would lie inside the coordinate space. -/
def StaysInside (r : Rect) (ds : List Point) : Prop :=
  ∀ past ∈ ds.inits, ∃ s, r.Displaced (past.map Point.vec).sum s

theorem Displaced.translate_eq {r s : Rect} {d : Point} (h : r.Displaced d.vec s) :
    r.translate d = s :=
  congrArg₂ Rect.mk (Point.add_eq_of_vec h.topLeft) (Point.add_eq_of_vec h.bottomRight)

/-- What lies behind a first shift lies that much less behind the place it has led to. -/
theorem Displaced.of_add {r s t : Rect} {v w : ℤ × ℤ} (hs : r.Displaced v s)
    (ht : r.Displaced (v + w) t) : s.Displaced w t :=
  ⟨by rw [ht.topLeft, hs.topLeft, add_assoc], by rw [ht.bottomRight, hs.bottomRight, add_assoc]⟩

theorem Displaced.trans {r s t : Rect} {v w : ℤ × ℤ} (hs : r.Displaced v s)
    (ht : s.Displaced w t) : r.Displaced (v + w) t :=
  ⟨by rw [ht.topLeft, hs.topLeft, add_assoc], by rw [ht.bottomRight, hs.bottomRight, add_assoc]⟩

/-- A rectangle keeps its extent wherever it is, even one that is too long for a coordinate. -/
theorem Displaced.width_eq {r s : Rect} {v : ℤ × ℤ} (h : r.Displaced v s) : s.width = r.width := by
  refine Coord.ext ?_
  simp only [width, Coord.toInt_sub, Point.x_of_vec h.topLeft, Point.x_of_vec h.bottomRight,
    add_sub_add_right_eq_sub]

theorem Displaced.height_eq {r s : Rect} {v : ℤ × ℤ} (h : r.Displaced v s) :
    s.height = r.height := by
  refine Coord.ext ?_
  simp only [height, Coord.toInt_sub, Point.y_of_vec h.topLeft, Point.y_of_vec h.bottomRight,
    add_sub_add_right_eq_sub]

theorem Displaced.scale_eq {r s : Rect} {v : ℤ × ℤ} (h : r.Displaced v s) (w : Relative) :
    s.scale w = r.scale w := by
  rw [scale, scale, h.width_eq, h.height_eq]

/-- A rectangle holds a pixel wherever both of them are. -/
theorem Displaced.contains_eq {r s : Rect} {v : ℤ × ℤ} (h : r.Displaced v s) {p q : Point}
    (hq : q.vec = p.vec + v) : s.contains q = r.contains p := by
  rw [Bool.eq_iff_iff, contains_iff, contains_iff, Point.x_of_vec h.topLeft,
    Point.y_of_vec h.topLeft, Point.x_of_vec h.bottomRight, Point.y_of_vec h.bottomRight,
    Point.x_of_vec hq, Point.y_of_vec hq]
  omega

/-- **Shifts that stay inside add up.** -/
theorem StaysInside.displaced {ds : List Point} :
    ∀ {r : Rect}, r.StaysInside ds → r.Displaced (ds.map Point.vec).sum (ds.foldl translate r) := by
  induction ds with
  | nil => intro r _; exact ⟨(add_zero _).symm, (add_zero _).symm⟩
  | cons d rest ih =>
      intro r h
      have hinits : ∀ past ∈ rest.inits, ∃ s, r.Displaced (d.vec + (past.map Point.vec).sum) s :=
        fun past hpast => by simpa using h (d :: past) (by simpa using hpast)
      obtain ⟨s, hs⟩ := hinits [] (by simp)
      rw [List.map_nil, List.sum_nil, add_zero] at hs
      have hrest : s.StaysInside rest := fun past hpast =>
        (hinits past hpast).imp fun t ht => hs.of_add ht
      rw [List.map_cons, List.sum_cons, List.foldl_cons, hs.translate_eq]
      exact hs.trans (ih hrest)

/-- Shifts stay inside if what they really do is what they should. -/
theorem staysInside_iff {r : Rect} {ds : List Point} :
    r.StaysInside ds ↔
      ∀ past ∈ ds.inits, r.Displaced (past.map Point.vec).sum (past.foldl translate r) := by
  constructor
  · intro h past hpast
    have hinside : r.StaysInside past := fun earlier hearlier =>
      h earlier ((List.mem_inits _ _).mpr
        (((List.mem_inits _ _).mp hearlier).trans ((List.mem_inits _ _).mp hpast)))
    exact hinside.displaced
  · intro h past hpast
    exact ⟨_, h past hpast⟩

instance (r : Rect) (v : ℤ × ℤ) (s : Rect) : Decidable (r.Displaced v s) :=
  decidable_of_iff (s.topLeft.vec = r.topLeft.vec + v ∧ s.bottomRight.vec = r.bottomRight.vec + v)
    ⟨fun h => ⟨h.1, h.2⟩, fun h => ⟨h.1, h.2⟩⟩

instance (r : Rect) (ds : List Point) : Decidable (r.StaysInside ds) :=
  decidable_of_iff _ staysInside_iff.symm

end Rect

end DrawingBoard

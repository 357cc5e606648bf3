/-
Pixel coordinates.

A coordinate is a whole number that fits in 32 bits with sign.  Sums and
differences that leave the range stop at its end, so a shape that is pushed far
away ends up at the edge of the coordinate space and never on the other side of
it.

Everything is said through `toInt`: each operation is the exact integer operation
followed by `clamp`.  With the simp lemmas below a statement about coordinates
becomes one about integers, and `omega` does the rest.
-/

namespace DrawingBoard

/-- A whole number from `-2 ^ 31` to `2 ^ 31 - 1`. -/
structure Coord where
  toInt : Int
  lower : -2147483648 ≤ toInt
  upper : toInt ≤ 2147483647
deriving DecidableEq

namespace Coord

@[ext]
theorem ext {a b : Coord} (h : a.toInt = b.toInt) : a = b := by
  cases a; cases b; simp_all

/-! ### Clamping -/

/-- The coordinate nearest to an integer. -/
def clamp (n : Int) : Coord :=
  ⟨max (-2147483648) (min n 2147483647), by omega, by omega⟩

@[simp]
theorem toInt_clamp (n : Int) :
    (clamp n).toInt = max (-2147483648) (min n 2147483647) := rfl

/-- An integer in range is its own nearest coordinate. -/
theorem toInt_clamp_of_le {n : Int} (h₁ : -2147483648 ≤ n) (h₂ : n ≤ 2147483647) :
    (clamp n).toInt = n := by
  simp only [toInt_clamp]; omega

@[simp]
theorem clamp_toInt (a : Coord) : clamp a.toInt = a :=
  Coord.ext (toInt_clamp_of_le a.lower a.upper)

/-- The coordinate equal to an integer, if there is one. -/
def ofInt? (n : Int) : Option Coord :=
  if h : -2147483648 ≤ n ∧ n ≤ 2147483647 then some ⟨n, h.1, h.2⟩ else none

/-! ### Order -/

instance : LE Coord := ⟨fun a b => a.toInt ≤ b.toInt⟩
instance : LT Coord := ⟨fun a b => a.toInt < b.toInt⟩

theorem le_def {a b : Coord} : a ≤ b ↔ a.toInt ≤ b.toInt := Iff.rfl
theorem lt_def {a b : Coord} : a < b ↔ a.toInt < b.toInt := Iff.rfl

instance (a b : Coord) : Decidable (a ≤ b) := inferInstanceAs (Decidable (a.toInt ≤ b.toInt))
instance (a b : Coord) : Decidable (a < b) := inferInstanceAs (Decidable (a.toInt < b.toInt))

instance : Max Coord := ⟨fun a b => if a ≤ b then b else a⟩
instance : Min Coord := ⟨fun a b => if a ≤ b then a else b⟩

@[simp]
theorem toInt_max (a b : Coord) : (max a b).toInt = max a.toInt b.toInt := by
  change (if a ≤ b then b else a).toInt = _
  split <;> rename_i h <;> rw [le_def] at h <;> omega

@[simp]
theorem toInt_min (a b : Coord) : (min a b).toInt = min a.toInt b.toInt := by
  change (if a ≤ b then a else b).toInt = _
  split <;> rename_i h <;> rw [le_def] at h <;> omega

/-! ### Arithmetic -/

instance : OfNat Coord 0 := ⟨⟨0, by decide, by decide⟩⟩
instance : Inhabited Coord := ⟨0⟩

/-- Addition, stopping at the ends of the range. -/
instance : Add Coord := ⟨fun a b => clamp (a.toInt + b.toInt)⟩

/-- Subtraction, stopping at the ends of the range. -/
instance : Sub Coord := ⟨fun a b => clamp (a.toInt - b.toInt)⟩

@[simp]
theorem toInt_zero : (0 : Coord).toInt = 0 := rfl

@[simp]
theorem toInt_add (a b : Coord) :
    (a + b).toInt = max (-2147483648) (min (a.toInt + b.toInt) 2147483647) := rfl

@[simp]
theorem toInt_sub (a b : Coord) :
    (a - b).toInt = max (-2147483648) (min (a.toInt - b.toInt) 2147483647) := rfl

/-- The `n`-th part of a coordinate, rounded toward zero. -/
def part (a : Coord) (n : Nat) : Coord := clamp (a.toInt.tdiv n)

/-- A part lies between zero and the whole, so it never has to be clamped. -/
@[simp]
theorem toInt_part (a : Coord) (n : Nat) : (a.part n).toInt = a.toInt.tdiv n := by
  have hle : (a.toInt.tdiv n).natAbs ≤ a.toInt.natAbs := by
    rw [Int.natAbs_tdiv]; exact Nat.div_le_self _ _
  have hlo := a.lower
  have hhi := a.upper
  by_cases h : 0 ≤ a.toInt
  · have : 0 ≤ a.toInt.tdiv n := Int.tdiv_nonneg h (Int.natCast_nonneg n)
    exact toInt_clamp_of_le (by omega) (by omega)
  · have : 0 ≤ (-a.toInt).tdiv n := Int.tdiv_nonneg (by omega) (Int.natCast_nonneg n)
    rw [Int.neg_tdiv] at this
    exact toInt_clamp_of_le (by omega) (by omega)

/-! ### Fractional positions -/

/-- The coordinate of a fractional position: the fraction is dropped, a position out of
range goes to the nearest end, and a position that is no number counts as zero. -/
def truncate (x : Float) : Coord :=
  clamp (x.toModel.unpack.toInt (-2147483648) 2147483647)

/-- `truncate` for positions of single precision. -/
def truncateSingle (x : Float32) : Coord :=
  clamp (x.toModel.unpack.toInt (-2147483648) 2147483647)

/-- The coordinate as a floating-point number, which is always exact. -/
def toFloat (a : Coord) : Float := Float.ofInt a.toInt

end Coord

end DrawingBoard

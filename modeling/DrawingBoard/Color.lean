/-
Colors.

A color is one byte per channel.  Surfaces store it as it is: the alpha channel
is kept beside the others and nothing is blended.
-/

namespace DrawingBoard

/-- A color with straight alpha. -/
structure Color where
  red : UInt8
  green : UInt8
  blue : UInt8
  alpha : UInt8
deriving DecidableEq

namespace Color

/-- The color of a surface before anything is drawn on it. -/
def transparent : Color := ⟨0, 0, 0, 0⟩

instance : Inhabited Color := ⟨transparent⟩

def white : Color := ⟨255, 255, 255, 255⟩

/-- The green of a freshly opened board. -/
def grass : Color := ⟨151, 208, 119, 255⟩

def black : Color := ⟨0, 0, 0, 255⟩

/-- The color of a figure unless it is given another. -/
def coral : Color := ⟨255, 102, 102, 255⟩

end Color

end DrawingBoard

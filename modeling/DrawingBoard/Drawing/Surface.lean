/-
Surfaces, and the screens that hand them out.

A surface has a size and lets rectangles be filled with a color; nothing else is
asked of it.  Painting a list of strokes is a fold of fills, so what ends up on a
surface is decided by the sequence of fill calls alone.
-/
import DrawingBoard.Drawing.DrawList
import DrawingBoard.Geometry.Size

namespace DrawingBoard

/-- Something that can be painted on. -/
class Surface (σ : Type) where
  /-- The size of the surface in pixels. -/
  size : σ → Size
  /-- The surface after the pixels of a rectangle have been given a color. -/
  fill : σ → Rect → Color → σ

/-- Why a surface cannot be had. -/
inductive SurfaceError where
  /-- The size asked for has no pixels. -/
  | empty (size : Size)
  /-- The size asked for has more pixels than the screen may hand out. -/
  | tooLarge (size : Size) (budget : UInt64)
deriving DecidableEq

def SurfaceError.message : SurfaceError → String
  | .empty size => s!"surface size {size.width}x{size.height} has no area"
  | .tooLarge size budget =>
    s!"surface size {size.width}x{size.height} exceeds the budget of {budget} pixels"

/-- A source of new surfaces. -/
structure Screen (σ : Type) where
  /-- A surface of the given size, or the reason why there is none. -/
  newSurface : Size → Except SurfaceError σ

namespace Surface

variable {σ : Type} [Surface σ]

/-- The rectangle of all pixels of a surface. -/
def bounds (s : σ) : Rect := (size s).bounds

/-- The fills that a list of items asks for, on a surface with the given bounds. -/
def fills (bounds : Rect) (items : List DrawItem) : List (Rect × Color) :=
  items.map fun item => (item.stroke.area bounds, item.stroke.color)

/-- The surface after a sequence of fills. -/
def fillAll (s : σ) (calls : List (Rect × Color)) : σ :=
  calls.foldl (fun s call => fill s call.1 call.2) s

/-- The surface after the items have been painted on it, in the order given. -/
def paint (s : σ) (items : List DrawItem) : σ := fillAll s (fills (bounds s) items)

end Surface

end DrawingBoard

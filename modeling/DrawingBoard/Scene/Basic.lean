/-
The scene: what lies on a board.

A scene holds backgrounds, at most one bounding box, figures, and moves that have
not taken effect yet.  Elements are bound late.  The first snapshot that shows an
element fixes its frame in pixels, and the element keeps that frame whatever size
later snapshots have.  A move waits for the next snapshot too, since only then is
its offset a number of pixels; it names the figures it is aimed at when it is
applied, so figures added after it stay where they are.

Figures carry ids that count up and are never given twice, not even after a
reset.  An id taken before a reset therefore never names a figure added after it.
-/
import DrawingBoard.Operation
import DrawingBoard.Scene.Targets

namespace DrawingBoard

/-- A figure on the board. -/
structure PlacedFigure where
  id : FigureId
  figure : Figure
  /-- The frame the figure is bound to, once it has been drawn. -/
  frame : Option Rect := none
deriving DecidableEq

namespace PlacedFigure

/-- Does the figure cover the pixel?  One that was never drawn covers nothing. -/
def contains (f : PlacedFigure) (p : Point) : Bool :=
  match f.frame with
  | some frame => f.figure.contains frame p
  | none => false

/-- Binds the figure to a frame, unless it is bound already. -/
def bind (f : PlacedFigure) (frame : Rect) : PlacedFigure :=
  { f with frame := some (f.frame.getD frame) }

/-- Shifts the figure's frame; without a frame there is nothing to shift. -/
def shift (f : PlacedFigure) (d : Point) : PlacedFigure :=
  { f with frame := f.frame.map (·.translate d) }

end PlacedFigure

/-- A bounding box on the board. -/
structure PlacedBox where
  box : BoundingBox
  /-- The frame the box is bound to, once it has been drawn. -/
  frame : Option Rect := none
deriving DecidableEq

/-- Binds the box to a frame, unless it is bound already. -/
def PlacedBox.bind (b : PlacedBox) (frame : Rect) : PlacedBox :=
  { b with frame := some (b.frame.getD frame) }

/-- A move that waits for the next snapshot. -/
structure PendingMove where
  offset : Relative
  /-- The figures that were on the board when the move was applied. -/
  targets : Targets
deriving DecidableEq

/-- What lies on a board. -/
structure Scene where
  /-- Colors of the fills, in the order of application. -/
  backgrounds : List Color := []
  boundingBox : Option PlacedBox := none
  /-- The figures, in the order of application; later ones lie on top. -/
  figures : List PlacedFigure := []
  /-- Moves that have not taken effect, in the order of application. -/
  moves : List PendingMove := []
  /-- The id that the next figure will get. -/
  nextId : FigureId := 0
deriving DecidableEq

/-- The number of elements of each kind. -/
structure SceneStats where
  backgrounds : Nat
  figures : Nat
  hasBoundingBox : Bool
  pendingMoves : Nat
deriving DecidableEq

namespace Scene

/-- The board before anything is put on it. -/
def empty : Scene := {}

instance : Inhabited Scene := ⟨empty⟩

/-! ### Asking -/

/-- The ids of the figures on the board, in the order of application. -/
def ids (s : Scene) : List FigureId := s.figures.map (·.id)

/-- Is the figure with this id on the board? -/
def contains (s : Scene) (id : FigureId) : Bool := s.figures.any (·.id == id)

def stats (s : Scene) : SceneStats where
  backgrounds := s.backgrounds.length
  figures := s.figures.length
  hasBoundingBox := s.boundingBox.isSome
  pendingMoves := s.moves.length

/-- The topmost figure that covers a pixel. -/
def figureUnder? (s : Scene) (p : Point) : Option PlacedFigure :=
  s.figures.reverse.find? (·.contains p)

/-! ### Changing -/

def apply (s : Scene) : Operation → Scene
  | .fill color => { s with backgrounds := s.backgrounds ++ [color] }
  | .figure figure =>
    { s with figures := s.figures ++ [{ id := s.nextId, figure }], nextId := s.nextId + 1 }
  | .boundingBox box => { s with boundingBox := some { box } }
  | .move offset => { s with moves := s.moves ++ [⟨offset, Targets.ofList s.ids⟩] }
  | .reset => { nextId := s.nextId }
  | .update => s

def applyAll (s : Scene) (ops : List Operation) : Scene := ops.foldl apply s

/-- Shifts one figure by pixels, and says whether it was there.  A figure that was never drawn
stays where it is, but counts as present. -/
def nudge (s : Scene) (id : FigureId) (d : Point) : Bool × Scene :=
  (s.contains id,
   { s with figures := s.figures.map fun f => if f.id = id then f.shift d else f })

/-- The elements of a board that has just been opened: a green background and one figure in
the middle. -/
def opening : List Operation :=
  [.fill Color.grass, .figure { center := ⟨0.5, 0.5⟩ }]

end Scene

end DrawingBoard

/-
Snapshots: a scene drawn on a surface.

A snapshot changes the scene.  It binds the elements that were never drawn to
the bounds of the surface, then lets the waiting moves take effect in order, and
only then records what is to be painted.  A snapshot for which no surface can be
had changes nothing.
-/
import DrawingBoard.Drawing.Surface
import DrawingBoard.Scene.Basic

namespace DrawingBoard

namespace PendingMove

/-- The figures after the move has taken effect on a surface with the given bounds. -/
def run (bounds : Rect) (figures : List PlacedFigure) (m : PendingMove) : List PlacedFigure :=
  figures.map fun f => if m.targets.contains f.id then f.shift (bounds.scale m.offset) else f

end PendingMove

namespace Scene

/-- Binds all elements that are not bound yet to the bounds of a surface. -/
def bind (s : Scene) (bounds : Rect) : Scene :=
  { s with
    boundingBox := s.boundingBox.map (·.bind bounds)
    figures := s.figures.map (·.bind bounds) }

/-- Lets all waiting moves take effect, in the order in which they were applied. -/
def drain (s : Scene) (bounds : Rect) : Scene :=
  { s with figures := s.moves.foldl (PendingMove.run bounds) s.figures, moves := [] }

/-- What is to be painted: the backgrounds, the bounding box, and the figures, as far as they
are bound. -/
def drawList (s : Scene) : DrawList :=
  let list := s.backgrounds.foldl DrawList.pushFill DrawList.empty
  let list := match s.boundingBox with
    | some { box, frame := some frame } => list.pushBoundingBox box frame
    | _ => list
  s.figures.foldl
    (fun list f => match f.frame with
      | some frame => list.pushFigure f.figure frame
      | none => list)
    list

/-- Binds, drains and records, for a surface with the given bounds. -/
def record (s : Scene) (bounds : Rect) : DrawList × Scene :=
  let s := (s.bind bounds).drain bounds
  (s.drawList, s)

/-- A snapshot of the given size, and the scene after it. -/
def snapshot {σ : Type} [Surface σ] (screen : Screen σ) (size : Size) (s : Scene) :
    Except SurfaceError σ × Scene :=
  match screen.newSurface size with
  | .error e => (.error e, s)
  | .ok surface =>
    let (list, s) := s.record (Surface.bounds surface)
    (.ok (Surface.paint surface list.inPaintOrder.1), s)

end Scene

end DrawingBoard

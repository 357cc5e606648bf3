/-
Dragging figures with a pointer.

Pressing the button takes hold of the topmost figure under the pointer.  While it
is held, each move of the pointer shifts the figure by the way the pointer has
come since its last recorded position.  Letting go makes the last step and ends
the drag.  A drag also ends when the figure has disappeared from the board.
-/
import DrawingBoard.Scene.Basic

namespace DrawingBoard

/-- A button of the pointing device. -/
inductive Button where
  | left
  | right
  | middle
  | other (number : UInt16)
deriving DecidableEq

/-- What the pointing device reports, with positions in fractions of a pixel. -/
inductive PointerEvent where
  | moved (x y : Float32)
  | pressed (button : Button) (x y : Float32)
  | released (button : Button) (x y : Float32)
  /-- The pointer has left the window. -/
  | away

/-- A figure that is held, and where the pointer was last. -/
structure Grab where
  id : FigureId
  last : Point
deriving DecidableEq

/-- A drag in progress, or the readiness for one. -/
structure Drag where
  /-- The button that takes hold of figures. -/
  button : Button := .left
  grab : Option Grab := none
deriving DecidableEq

/-- What came of an event. -/
inductive DragResponse where
  /-- Nothing was held, or the event does not matter. -/
  | ignored
  /-- A figure is now held. -/
  | grabbed (id : FigureId)
  /-- The figure that is held was shifted. -/
  | moved (id : FigureId) (d : Point)
  /-- The figure is no longer held, because the button was released or the figure is gone. -/
  | released
deriving DecidableEq

/-- Does the picture have to be drawn again? -/
def DragResponse.needsRedraw : DragResponse → Bool
  | .moved _ d => !d.isZero
  | _ => false

namespace Drag

/-- The figure that is held. -/
def grabbed (d : Drag) : Option FigureId := d.grab.map (·.id)

/-- Takes hold of the topmost figure under the pointer, in place of what was held before. -/
def press (d : Drag) (p : Point) (s : Scene) : DragResponse × Drag :=
  match s.figureUnder? p with
  | some f => (.grabbed f.id, { d with grab := some ⟨f.id, p⟩ })
  | none => (.ignored, { d with grab := none })

/-- Shifts the figure that is held by the way from the last position to `p`. -/
def dragTo (d : Drag) (p : Point) (s : Scene) : DragResponse × Drag × Scene :=
  match d.grab with
  | none => (.ignored, d, s)
  | some grab =>
    let way := p - grab.last
    match s.nudge grab.id way with
    | (true, s) => (.moved grab.id way, { d with grab := some { grab with last := p } }, s)
    | (false, s) => (.released, { d with grab := none }, s)

/-- Makes the last step to `p` and lets go. -/
def release (d : Drag) (p : Point) (s : Scene) : DragResponse × Drag × Scene :=
  match d.grab with
  | none => (.ignored, d, s)
  | some _ =>
    let (_, d, s) := d.dragTo p s
    (.released, { d with grab := none }, s)

/-- Answers one event.  Other buttons than the one that takes hold do not matter, and neither
does the pointer leaving the window. -/
def handle (d : Drag) (event : PointerEvent) (s : Scene) : DragResponse × Drag × Scene :=
  match event with
  | .moved x y => d.dragTo (Point.ofPointer x y) s
  | .pressed button x y =>
    if button = d.button then
      let (response, d) := d.press (Point.ofPointer x y) s
      (response, d, s)
    else (.ignored, d, s)
  | .released button x y =>
    if button = d.button then d.release (Point.ofPointer x y) s else (.ignored, d, s)
  | .away => (.ignored, d, s)

end Drag

end DrawingBoard

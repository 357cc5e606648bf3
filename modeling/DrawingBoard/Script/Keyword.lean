/-
The keywords of the script language.
-/
import DrawingBoard.Operation

namespace DrawingBoard

/-- The commands that a script can hold. -/
inductive Keyword where
  | white
  | green
  | figure
  | boundingBox
  | move
  | update
  | reset
deriving DecidableEq

namespace Keyword

/-- All keywords, in the order in which they are documented. -/
def all : List Keyword := [white, green, figure, boundingBox, move, update, reset]

def text : Keyword → String
  | white => "white"
  | green => "green"
  | figure => "figure"
  | boundingBox => "brect"
  | move => "move"
  | update => "update"
  | reset => "reset"

/-- The keyword with the given spelling, in which upper and lower case differ. -/
def ofText? (word : String) : Option Keyword := all.find? (·.text == word)

def arity : Keyword → Nat
  | white | green | update | reset => 0
  | figure | move => 2
  | boundingBox => 4

/-- Control commands end a batch and never take arguments. -/
def isControl : Keyword → Bool
  | update | reset => true
  | _ => false

/-- The operation that a command with the given arguments stands for, if their number is
right. -/
def operation? : Keyword → List Float → Option Operation
  | white, [] => some (.fill Color.white)
  | green, [] => some (.fill Color.grass)
  | figure, [x, y] => some (.figure { center := ⟨x, y⟩ })
  | boundingBox, [x₁, y₁, x₂, y₂] => some (.boundingBox (.ofCorners ⟨x₁, y₁⟩ ⟨x₂, y₂⟩))
  | move, [x, y] => some (.move ⟨x, y⟩)
  | update, [] => some .update
  | reset, [] => some .reset
  | _, _ => none

/-- A keyword is found by its spelling. -/
@[simp]
theorem ofText?_text (k : Keyword) : ofText? k.text = some k := by cases k <;> decide

/-- The arguments make an operation exactly if their number is right. -/
theorem isSome_operation?_iff (k : Keyword) (args : List Float) :
    (k.operation? args).isSome = true ↔ args.length = k.arity := by
  match args with
  | [] => cases k <;> simp [operation?, arity]
  | [_] => cases k <;> simp [operation?, arity]
  | [_, _] => cases k <;> simp [operation?, arity]
  | [_, _, _] => cases k <;> simp [operation?, arity]
  | [_, _, _, _] => cases k <;> simp [operation?, arity]
  | _ :: _ :: _ :: _ :: _ :: _ => cases k <;> simp [operation?, arity]

end Keyword

end DrawingBoard

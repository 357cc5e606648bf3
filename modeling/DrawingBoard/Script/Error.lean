/-
What can be wrong with a script.

An error names the line and the keyword of the command at fault, and one of four
faults.  If a command has several, the first in the order of `Fault` counts.
-/
import DrawingBoard.Text.Quoted

namespace DrawingBoard

/-- What is wrong with a command. -/
inductive Fault where
  | unknownCommand
  /-- A control command was given arguments. -/
  | inlineArguments
  | argumentCount (expected got : Nat)
  | invalidNumber (argument : String)
deriving DecidableEq

structure ScriptError where
  line : Nat
  keyword : String
  fault : Fault
deriving DecidableEq

namespace ScriptError

def description (e : ScriptError) : String :=
  match e.fault with
  | .unknownCommand => "unknown command " ++ Text.quote e.keyword
  | .inlineArguments => e.keyword ++ " does not take inline arguments"
  | .argumentCount expected got => s!"{e.keyword} expects {expected} argument(s), got {got}"
  | .invalidNumber argument =>
    "invalid numeric argument " ++ Text.quote argument ++ " for " ++ e.keyword

def message (e : ScriptError) : String := s!"line {e.line}: " ++ e.description

/-- The wording of what lies behind the error: for an argument that cannot be read, why it
cannot. -/
def cause? (e : ScriptError) : Option String :=
  match e.fault with
  | .invalidNumber _ => some "invalid float literal"
  | _ => none

end ScriptError

end DrawingBoard

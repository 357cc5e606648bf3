/-
Understanding commands.

Each command of a script stands for one operation, or is at fault.  Reading a
script stops at the first command at fault.
-/
import DrawingBoard.Script.Command
import DrawingBoard.Script.Error
import DrawingBoard.Script.Keyword
import DrawingBoard.Text.Numeral

namespace DrawingBoard

namespace Command

/-- The error for a fault of the command. -/
def error (c : Command) (fault : Fault) : ScriptError := ⟨c.line, c.keyword, fault⟩

/-- Reads an argument as a number. -/
def number (c : Command) (argument : String) : Except ScriptError Float :=
  match Numeral.read? argument with
  | some x => .ok x
  | none => .error (c.error (.invalidNumber argument))

/-- The operation that the command stands for. -/
def operation (c : Command) : Except ScriptError Operation := do
  let some keyword := Keyword.ofText? c.keyword | throw (c.error .unknownCommand)
  let miscount := c.error (.argumentCount keyword.arity c.arguments.length)
  if keyword.isControl && !c.arguments.isEmpty then
    throw (c.error .inlineArguments)
  if c.arguments.length ≠ keyword.arity then
    throw miscount
  let args ← c.arguments.mapM c.number
  match keyword.operation? args with
  | some op => pure op
  | none => throw miscount

end Command

/-- The operations that a script stands for, or the first error in it. -/
def Operation.ofScript (script : String) : Except ScriptError (List Operation) :=
  (Command.ofScript script).mapM Command.operation

end DrawingBoard

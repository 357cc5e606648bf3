/-
The commands of a script, before their words are understood.

A script is a sequence of lines, which end with a line feed.  A line holds
commands between ampersands, and a command is a sequence of words between blanks.
A carriage return is a blank like any other, so it may stand before a line feed.
Commands without words are passed over.
-/
import DrawingBoard.Text.Blank
import DrawingBoard.Text.Split

namespace DrawingBoard

structure Command where
  keyword : String
  arguments : List String
  /-- The line of the keyword, counted from one. -/
  line : Nat
deriving DecidableEq

namespace Command

/-- The command with the given words on the given line, if there are any words. -/
def ofWords? (line : Nat) : List (List Char) → Option Command
  | [] => none
  | keyword :: arguments =>
    some { keyword := String.ofList keyword, arguments := arguments.map String.ofList, line }

def ofLine (line : Nat) (text : List Char) : List Command :=
  (Text.split (· == '&') text).filterMap fun piece => ofWords? line (Text.words Text.isBlank piece)

def ofScript (script : String) : List Command :=
  ((Text.split (· == '\n') script.toList).zipIdx 1).flatMap fun (text, line) => ofLine line text

end Command

end DrawingBoard

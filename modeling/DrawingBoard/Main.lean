/-
The command line program: opens a board and draws what it is told.

Each line of the standard input is a script.  For each one the program says how
many operations it posted, or what is wrong with it.
-/
import DrawingBoard.CommandLine
import DrawingBoard.Server.Web

namespace DrawingBoard.Program

def report : Except ScriptError Nat → String
  | .ok n => s!"posted {n} operation(s)"
  | .error e => "An error occurred: " ++ e.message

/-- Submits one script after the other until the input ends. -/
partial def serve (input output : IO.FS.Stream) (s : Server) : IO Unit := do
  let line ← input.getLine
  unless line.isEmpty do
    let (result, s) := s.submit line
    output.putStrLn (report result)
    output.flush
    serve input output s

/-- Opens the board that was asked for. -/
def run (o : Options) : IO UInt32 := do
  let s := Server.new o.frameSize Canvas.defaultBudget o.blank
  match s.refresh with
  | (.error e, _) =>
    IO.eprintln ("render initial frame: " ++ e.message)
    return 1
  | (.ok _, s) =>
    match s.start with
    | .error e =>
      IO.eprintln ("start execution loop: " ++ e.message)
      return 1
    | .ok s =>
      serve (← IO.getStdin) (← IO.getStdout) s
      return 0

end DrawingBoard.Program

def main (words : List String) : IO UInt32 := do
  match DrawingBoard.Options.read words with
  | .error e =>
    IO.eprintln e.message
    return 2
  | .ok o => DrawingBoard.Program.run o

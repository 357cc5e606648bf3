/-
The server: a board that clients draw on by sending scripts.

A script that is accepted posts the operations it releases; the executor applies
them, and after each one takes a snapshot of the board, which becomes the latest
frame.  A snapshot that fails leaves the frame before it in place.

A script is answered as soon as its operations are posted, while the worker may still
be busy with earlier ones (`accept`).  The other steps below let the worker come to
rest, so they show the board with all that was asked for.
-/
import DrawingBoard.Drawing.Canvas
import DrawingBoard.Execution.Executor
import DrawingBoard.Scene.Snapshot
import DrawingBoard.Script.Batcher

namespace DrawingBoard

/-- A board with its readers, its worker, and the last picture of it. -/
structure Server where
  scene : Scene := {}
  batcher : Batcher := {}
  executor : Executor := {}
  /-- How many pixels a frame may have. -/
  budget : UInt64 := Canvas.defaultBudget
  frameSize : Size
  /-- The last snapshot that succeeded. -/
  latest : Option Canvas := none

namespace Server

/-- A server with frames of the given size that has not been started.  A blank one has an
empty board. -/
def new (frameSize : Size) (budget : UInt64) (blank : Bool) : Server where
  scene := if blank then Scene.empty else Scene.empty.applyAll Scene.opening
  budget := budget
  frameSize := frameSize

def refresh (s : Server) : Except SurfaceError Unit × Server :=
  match s.scene.snapshot (Canvas.screen s.budget) s.frameSize with
  | (.ok frame, scene) => (.ok (), { s with scene, latest := some frame })
  | (.error e, scene) => (.error e, { s with scene })

/-- Applies one operation and takes a snapshot. -/
def perform (s : Server) (op : Operation) : Server :=
  (refresh { s with scene := s.scene.apply op }).2

/-- Takes over a step of the executor: the operations that it applied are performed one by
one. -/
def follow (s : Server) (step : Progress × Executor) : Server :=
  step.1.applied.foldl perform { s with executor := step.2 }

/-- The notification in progress returns, if there is one, and the worker goes on. -/
def release (s : Server) : Server := (s.executor.release?.map s.follow).getD s

/-- Lets the worker go on until it is at rest outside a notification. -/
def rest (s : Server) : Server := s.follow s.executor.drain

/-- Takes over a step of the executor and all that follows from it. -/
def settle (s : Server) (step : Progress × Executor) : Server := (s.follow step).rest

def start (s : Server) : Except ExecutorError Server := s.executor.start.map s.settle

def terminate (s : Server) : Server := s.settle s.executor.terminate

/-- Reads a script and posts the operations it releases, whose number is the answer. -/
def accept (s : Server) (script : String) : Except ScriptError Nat × Server :=
  match s.batcher.read script with
  | (.error e, batcher) => (.error e, { s with batcher })
  | (.ok ops, batcher) =>
    (.ok ops.length, follow { s with batcher } (s.executor.postAll ops))

/-- Accepts a script and lets the worker come to rest. -/
def submit (s : Server) (script : String) : Except ScriptError Nat × Server :=
  let (answer, s) := s.accept script
  (answer, s.rest)

end Server

end DrawingBoard

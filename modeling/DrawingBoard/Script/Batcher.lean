/-
Batches of operations.

Operations are handed on in batches.  `update` ends a batch: all that came before
it is handed on at once.  `reset` throws away all that came before it in the same
script, and all that was waiting, and is handed on in its place.  What follows
the last of these waits in a pool for the scripts to come.
-/
import DrawingBoard.Script.Reading

namespace DrawingBoard

/-- How far a script has been cut into batches. -/
structure Batch where
  /-- The operations since the last reset, with the reset and without the updates. -/
  ops : List Operation := []
  /-- How many of them belong to batches that have ended. -/
  ended : Option Nat := none
  /-- Has there been a reset? -/
  reset : Bool := false
deriving DecidableEq

namespace Batch

/-- Goes on by one operation. -/
def push (b : Batch) : Operation → Batch
  | .update => { b with ended := some b.ops.length }
  | .reset => { ops := [.reset], ended := some 1, reset := true }
  | op => { b with ops := b.ops ++ [op] }

def ofOperations (ops : List Operation) : Batch := ops.foldl push {}

/-- What is handed on, and what waits afterwards, if `pool` was waiting before. -/
def settle (b : Batch) (pool : List Operation) : List Operation × List Operation :=
  match b.ended with
  | none => ([], pool ++ b.ops)
  | some n => ((if b.reset then [] else pool) ++ b.ops.take n, b.ops.drop n)

end Batch

/-- A reader of scripts with the operations that wait for the end of their batch. -/
structure Batcher where
  pool : List Operation := []
deriving DecidableEq

/-- Reads a script: the operations to be handed on, and what waits afterwards.  A script with
an error changes nothing. -/
def Batcher.read (b : Batcher) (script : String) :
    Except ScriptError (List Operation) × Batcher :=
  match Operation.ofScript script with
  | .error e => (.error e, b)
  | .ok ops =>
    let (released, pool) := (Batch.ofOperations ops).settle b.pool
    (.ok released, { pool })

end DrawingBoard

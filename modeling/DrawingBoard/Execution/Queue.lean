/-
The queue of operations between those who post them and the worker.

Operations leave the queue in the order in which they came.  A pull on an empty
queue waits, and is answered by whoever next posts an operation or closes the
queue.  Closing wins over queued work: a closed queue answers every pull that
there is no more work, and keeps what it holds until it is opened again.
-/
import DrawingBoard.Operation

namespace DrawingBoard

/-- What a pull gets in the end. -/
inductive Yield where
  | work (op : Operation)
  | noMore
deriving DecidableEq

/-- How a pull is answered. -/
inductive PullReply where
  /-- At once. -/
  | got (yield : Yield)
  /-- Not yet: the queue is empty, and the pull waits. -/
  | waits
  /-- Not at all: an earlier pull waits already. -/
  | refused
deriving DecidableEq

/-- Operations in the order in which they were posted. -/
structure Queue where
  items : List Operation := []
  closed : Bool := false
  /-- Is there a pull that waits? -/
  waiting : Bool := false
deriving DecidableEq

namespace Queue

instance : Inhabited Queue := ⟨{}⟩

def size (q : Queue) : Nat := q.items.length

def isEmpty (q : Queue) : Bool := q.items.isEmpty

/-- What a pull would get now, and what it would leave; nothing if it would have to wait. -/
def take? (q : Queue) : Option (Yield × Queue) :=
  if q.closed then some (.noMore, q)
  else
    match q.items with
    | [] => none
    | op :: rest => some (.work op, { q with items := rest })

/-- Answers the pull that waits, if there is one and it can be answered. -/
def serve (q : Queue) : Option Yield × Queue :=
  if q.waiting then
    match q.take? with
    | some (yield, q) => (some yield, { q with waiting := false })
    | none => (none, q)
  else (none, q)

/-- Posts operations in one go, so that no others come between them.  The first part of the
answer is what a waiting pull gets. -/
def pushAll (q : Queue) (ops : List Operation) : Option Yield × Queue :=
  serve { q with items := q.items ++ ops }

def push (q : Queue) (op : Operation) : Option Yield × Queue := q.pushAll [op]

def pull (q : Queue) : PullReply × Queue :=
  if q.waiting then (.refused, q)
  else
    match q.take? with
    | some (yield, q) => (.got yield, q)
    | none => (.waits, { q with waiting := true })

def close (q : Queue) : Option Yield × Queue := serve { q with closed := true }

/-- Opens the queue again.  A pull can wait only at an open queue, so none has to be
answered. -/
def reopen (q : Queue) : Queue := { q with closed := false }

end Queue

end DrawingBoard

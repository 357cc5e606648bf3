/-
The executor: one worker that applies the posted operations.

The worker pulls an operation, applies it, and notifies a receiver; it pulls the
next one only when the notification has returned, so a slow receiver holds the
queue back.  It exits when a pull tells it that there is no more work.  A receiver
that panics takes the worker down with it.

Whoever terminates the executor waits until the worker is gone, but for the worker
itself: a receiver that calls from inside a notification would wait for its own end.
So the worker notes its thread before it pulls anything, and a call that comes from
the thread that is noted closes the queue and returns.

Each step below is a step of the world around the worker (an operation is posted,
a notification returns, somebody terminates the executor) together with all that
the worker does on its own until it is at rest again: inside a notification,
waiting at the empty queue, or gone.  A step reports what was applied and which
notifications ended in the meantime.
-/
import DrawingBoard.Execution.Queue

namespace DrawingBoard

inductive Phase where
  | idle
  | running
  | terminated
deriving DecidableEq

/-- Where the worker is. -/
inductive Worker where
  /-- There is none: none was started, or the last one has been joined. -/
  | absent
  /-- At the empty queue. -/
  | waiting
  /-- Inside a notification. -/
  | notifying
  /-- It has exited, and nobody has joined it yet. -/
  | exited
  /-- It has panicked, and nobody has joined it yet. -/
  | panicked
deriving DecidableEq

/-- Is the worker still going to do something? -/
def Worker.isAlive : Worker → Bool
  | .waiting | .notifying => true
  | .absent | .exited | .panicked => false

/-- The threads that an executor meets.  Each worker has one of its own. -/
inductive Thread where
  /-- The thread of the `n`-th worker that was started. -/
  | worker (n : Nat)
  /-- A thread that is no worker's. -/
  | outside (id : Nat)
deriving DecidableEq

/-- What happened in a step. -/
structure Progress where
  applied : List Operation := []
  returned : Nat := 0
  panicked : Nat := 0
deriving DecidableEq

instance : Append Progress where
  append p q := ⟨p.applied ++ q.applied, p.returned + q.returned, p.panicked + q.panicked⟩

namespace Progress

@[simp] theorem applied_append (p q : Progress) : (p ++ q).applied = p.applied ++ q.applied := rfl

@[simp] theorem returned_append (p q : Progress) :
    (p ++ q).returned = p.returned + q.returned := rfl

@[simp] theorem panicked_append (p q : Progress) :
    (p ++ q).panicked = p.panicked + q.panicked := rfl

/-- A step in which nothing happens adds nothing. -/
theorem append_nothing (p : Progress) : p ++ {} = p := by
  show Progress.mk (p.applied ++ []) (p.returned + 0) (p.panicked + 0) = p
  rw [List.append_nil, Nat.add_zero, Nat.add_zero]

end Progress

/-- Why an executor cannot be started. -/
inductive ExecutorError where
  | alreadyRunning
deriving DecidableEq

def ExecutorError.message : ExecutorError → String
  | .alreadyRunning => "execution loop is already running"

/-- A queue and the worker that empties it. -/
structure Executor where
  queue : Queue := {}
  phase : Phase := .idle
  worker : Worker := .absent
  /-- How many workers were started so far. -/
  started : Nat := 0
  /-- The thread that the worker has noted, until the worker is joined. -/
  noted : Option Thread := none
deriving DecidableEq

namespace Executor

instance : Inhabited Executor := ⟨{}⟩

def pending (e : Executor) : Nat := e.queue.size

/-- The thread of the last worker that was started. -/
def thread (e : Executor) : Thread := .worker e.started

/-! ### The worker on its own -/

/-- The worker gets the answer to its pull: it applies an operation and begins to notify, or
it exits. -/
def receive (e : Executor) : Yield → Progress × Executor
  | .work op => ({ applied := [op] }, { e with worker := .notifying })
  | .noMore => ({}, { e with worker := .exited, phase := .terminated })

/-- A waiting worker goes on if its pull has been answered. -/
def wake (e : Executor) : Option Yield → Progress × Executor
  | some yield => e.receive yield
  | none => ({}, e)

def pull (e : Executor) : Progress × Executor :=
  match e.queue.pull with
  | (.got yield, queue) => { e with queue }.receive yield
  | (_, queue) => ({}, { e with queue, worker := .waiting })

/-! ### Posting -/

def postAll (e : Executor) (ops : List Operation) : Progress × Executor :=
  let (yield, queue) := e.queue.pushAll ops
  { e with queue }.wake yield

def post (e : Executor) (op : Operation) : Progress × Executor := e.postAll [op]

/-! ### Notifications -/

/-- The notification in progress returns, and the worker pulls again.  There may be none in
progress. -/
def release? (e : Executor) : Option (Progress × Executor) :=
  if e.worker = .notifying then
    let (progress, e) := e.pull
    some ({ returned := 1 } ++ progress, e)
  else none

/-- The receiver panics.  The phase stays as it is until the worker is joined. -/
def panicInside? (e : Executor) : Option (Progress × Executor) :=
  if e.worker = .notifying then some ({ panicked := 1 }, { e with worker := .panicked })
  else none

/-- At most `n` notifications return, one after the other. -/
def releaseUpTo : Nat → Executor → Progress × Executor
  | 0, e => ({}, e)
  | n + 1, e =>
    match e.release? with
    | some (first, e) =>
      let (rest, e) := releaseUpTo n e
      (first ++ rest, e)
    | none => ({}, e)

/-- Notifications return until none is in progress: the one that is, and one for each
operation in the queue. -/
def drain (e : Executor) : Progress × Executor := releaseUpTo (e.pending + 1) e

/-! ### Starting -/

/-- The executor with a new worker, which has noted its thread and is about to pull. -/
def spawn (e : Executor) : Executor :=
  { e with
    queue := e.queue.reopen
    phase := .running
    started := e.started + 1
    noted := some (.worker (e.started + 1)) }

/-- Starts a worker.  One that has exited or panicked is joined first; while one is alive, no
other is started. -/
def start (e : Executor) : Except ExecutorError (Progress × Executor) :=
  if e.worker.isAlive then .error .alreadyRunning else .ok e.spawn.pull

/-! ### Terminating -/

/-- Closes the queue, so that the worker exits when it next pulls; one that waits exits now. -/
def close (e : Executor) : Progress × Executor :=
  let (yield, queue) := e.queue.close
  { e with queue }.wake yield

/-- Joins a worker that is not alive any more. -/
def join (e : Executor) : Executor :=
  if e.worker = .absent then e
  else { e with worker := .absent, phase := .terminated, noted := none }

/-- Waits until the worker has exited from the closed queue, after the notification in progress,
and joins it. -/
def await (e : Executor) : Progress × Executor :=
  let (progress, e) := e.release?.getD ({}, e)
  (progress, e.join)

/-- Terminates the executor on a thread.  The queue is closed, and that is all if the worker
has noted the thread as its own; on any other thread the end of the worker is awaited.  What
is queued stays queued. -/
def terminateOn (e : Executor) (caller : Thread) : Progress × Executor :=
  let (first, e) := e.close
  if e.noted = some caller then (first, e)
  else
    let (later, e) := e.await
    (first ++ later, e)

/-- Terminates the executor from outside, where one thread is like another. -/
def terminate (e : Executor) : Progress × Executor := e.terminateOn (.outside 0)

/-- The receiver terminates the executor, on the worker's thread and inside the notification. -/
def closeInside? (e : Executor) : Option Executor :=
  if e.worker = .notifying then some (e.terminateOn e.thread).2 else none

/-- The receiver terminates the executor from inside the notification, which then returns.
The worker finds the queue closed and exits. -/
def stopInside? (e : Executor) : Option (Progress × Executor) := e.closeInside?.bind release?

end Executor

end DrawingBoard

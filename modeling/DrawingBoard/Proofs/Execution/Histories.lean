/-
What an executor does over a whole history.

Operations are posted, notifications return or panic, the executor is started and
terminated from inside and outside, all in any order; workers come and go, and they
share one queue.  Each event is one step from rest to rest, so the balance of a step
(`orderly_step`) adds up along the history (`balanced_run`): whatever was posted has
been applied, in the order in which it was posted, or is still queued, and each
application had its notification before the next one (`posted_eq`).

A receiver that terminates the executor goes on with its notification, so its call
(`closing`) is one event and the end of the notification another.  A caller outside
waits for that end and joins the worker, all in one event (`terminate`).  While it
waits it holds the worker, so a start comes after it.  What is posted meanwhile stays
in the queue, as if it came after it too, and a panic as if it came before.
-/
import DrawingBoard.Proofs.Execution.Resting

namespace DrawingBoard

namespace Executor

/-! ### Histories -/

/-- What can happen to an executor. -/
inductive Event where
  | post (op : Operation)
  | postAll (ops : List Operation)
  | start
  /-- The notification in progress returns. -/
  | returned
  /-- The receiver panics in the notification in progress. -/
  | panicked
  /-- The receiver terminates the executor in the middle of the notification, which goes on. -/
  | closing
  /-- Somebody outside terminates the executor, and `others` do so at the same time. -/
  | terminate (others : Nat)
deriving DecidableEq

/-- The operations that are posted with an event. -/
def Event.posted : Event → List Operation
  | .post op => [op]
  | .postAll ops => ops
  | _ => []

/-- Terminates the executor on `n` threads outside.  Of several callers at once only one can
join the worker, and the others find it gone. -/
def terminateBy : Nat → Executor → Progress × Executor
  | 0, e => ({}, e)
  | n + 1, e =>
    let (first, e) := e.terminateOn (.outside n)
    let (later, e) := terminateBy n e
    (first ++ later, e)

/-- The executor after an event.  To start it while a worker is alive is an error that changes
nothing, and without a notification in progress none can end. -/
def step (e : Executor) : Event → Progress × Executor
  | .post op => e.post op
  | .postAll ops => e.postAll ops
  | .start =>
    match e.start with
    | .ok step => step
    | .error _ => ({}, e)
  | .returned => e.release?.getD ({}, e)
  | .panicked => e.panicInside?.getD ({}, e)
  | .closing => ({}, e.closeInside?.getD e)
  | .terminate others => e.terminateBy (others + 1)

/-- What happened in a history, and the executor after it. -/
def run (e : Executor) : List Event → Progress × Executor
  | [] => ({}, e)
  | event :: rest =>
    let (first, e) := e.step event
    let (later, e) := run e rest
    (first ++ later, e)

/-- All operations that are posted in a history, in the order in which they are posted. -/
def posted (events : List Event) : List Operation := events.flatMap Event.posted

/-! ### Terminating again -/

theorem terminate_terminate {e : Executor} (h : e.AtRest) :
    e.terminate.2.terminate = ({}, e.terminate.2) := by
  rw [terminate_eq (step_terminate h).atRest, terminate_eq h]
  rfl

/-- Of several callers one is the first. -/
theorem terminateBy_add_one {e : Executor} (h : e.AtRest) (n : Nat) :
    e.terminateBy (n + 1) = (e.terminate.1 ++ (e.terminate.2.terminateBy n).1,
      (e.terminate.2.terminateBy n).2) := by
  rw [terminateBy, terminateOn_outside h]

/-- Further callers find nothing to do. -/
theorem terminateBy_succ {e : Executor} (h : e.AtRest) (n : Nat) :
    e.terminateBy (n + 1) = e.terminate := by
  have hagain : ∀ n, e.terminate.2.terminateBy n = ({}, e.terminate.2) := by
    intro n
    induction n with
    | zero => rfl
    | succ n ih =>
        rw [terminateBy_add_one (step_terminate h).atRest, terminate_terminate h, ih]
        rfl
  rw [terminateBy_add_one h, hagain, Progress.append_nothing]

/-! ### The balance of a history -/

theorem orderly_step {e : Executor} (h : e.AtRest) (event : Event) :
    Orderly e event.posted (e.step event) := by
  cases event with
  | post op => exact (step_postAll h [op]).toOrderly
  | postAll ops => exact (step_postAll h ops).toOrderly
  | start =>
      show Orderly e [] (e.step .start)
      unfold step
      cases hstart : e.start with
      | error _ => exact (Step.refl h).toOrderly
      | ok step => exact (step_start h hstart).toOrderly
  | returned =>
      show Orderly e [] (e.release?.getD ({}, e))
      cases hstep : e.release? with
      | none => exact (Step.refl h).toOrderly
      | some step => exact (step_release h hstep).toOrderly
  | panicked =>
      show Orderly e [] (e.panicInside?.getD ({}, e))
      cases hstep : e.panicInside? with
      | none => exact (Step.refl h).toOrderly
      | some step => exact orderly_panicInside h hstep
  | closing =>
      show Orderly e [] ({}, e.closeInside?.getD e)
      cases hclose : e.closeInside? with
      | none => exact (Step.refl h).toOrderly
      | some e' => exact orderly_closeInside h hclose
  | terminate others =>
      show Orderly e [] (e.terminateBy (others + 1))
      rw [terminateBy_succ h]
      exact (step_terminate h).toOrderly

theorem balanced_run (events : List Event) :
    ∀ {e : Executor}, e.AtRest → Balanced e (posted events) (e.run events) := by
  induction events with
  | nil => intro e h; exact .refl h
  | cons event rest ih =>
      intro e h
      have hstep := (orderly_step h event).toBalanced
      exact hstep.trans (ih hstep.atRest)

theorem atRest_run (events : List Event) : (run {} events).2.AtRest :=
  (balanced_run events atRest_default).atRest

/-- A live worker outside a notification waits. -/
theorem waiting_of_isAlive {e : Executor} (hlive : e.worker.isAlive = true)
    (hfree : e.worker ≠ .notifying) : e.worker = .waiting := by
  cases hworker : e.worker with
  | waiting => rfl
  | notifying => exact absurd hworker hfree
  | absent | exited | panicked => rw [hworker] at hlive; simp [Worker.isAlive] at hlive

/--
**No history loses, doubles or reorders an operation.**

After any history the operations that were posted are those that were applied, by
whichever worker, followed by those in the queue.  Each application has its one
notification: as many have returned, panicked or are in progress as operations were
applied, and no event applies a second operation before it comes to rest.  A live
worker that rests outside a notification has emptied the queue.
-/
theorem posted_eq (events : List Event) :
    posted events = (run {} events).1.applied ++ (run {} events).2.queue.items ∧
      (run {} events).1.applied.length
        = (run {} events).1.returned + (run {} events).1.panicked
          + (if (run {} events).2.worker = .notifying then 1 else 0) ∧
      (∀ event, ((run {} events).2.step event).1.applied.length ≤ 1) ∧
      ((run {} events).2.worker.isAlive = true → (run {} events).2.worker ≠ .notifying →
        (run {} events).2.queue.items = []) := by
  have hbalanced := balanced_run events atRest_default
  have hrest := atRest_run events
  refine ⟨hbalanced.conserves, ?_, fun event => (orderly_step hrest event).single, ?_⟩
  · have hnone : inProgress {} = 0 := rfl
    have hnotifies := hbalanced.notifies
    rw [hnone, Nat.zero_add] at hnotifies
    exact hnotifies
  · intro hlive hfree
    exact hrest.starved (waiting_of_isAlive hlive hfree)

/-- Posting before the start and after the end, an end from inside with work in the queue, a
panic, and three callers who terminate what is left. -/
def interrupted : List Event :=
  [.post (.fill Color.white), .start, .postAll [.fill Color.grass, .reset], .closing, .post .update,
    .returned, .start, .panicked, .terminate 2, .start, .returned, .returned]

/-- Three workers apply in turn what was posted, each operation once. -/
theorem posted_eq_interrupted :
    (run {} interrupted).2.worker.isAlive = true ∧ (run {} interrupted).2.worker ≠ .notifying ∧
      (run {} interrupted).2.queue.items = [] ∧
      (run {} interrupted).1.applied
        = [.fill Color.white, .fill Color.grass, .reset, .update] ∧
      (run {} interrupted).1.returned + (run {} interrupted).1.panicked = 4 := by
  have hlive : (run {} interrupted).2.worker.isAlive = true := by decide
  have hfree : (run {} interrupted).2.worker ≠ .notifying := by decide
  obtain ⟨hposted, hnotified, -, hempty⟩ := posted_eq interrupted
  have hitems := hempty hlive hfree
  rw [hitems, List.append_nil] at hposted
  rw [if_neg hfree, Nat.add_zero, ← hposted] at hnotified
  exact ⟨hlive, hfree, hitems, hposted.symm, hnotified.symm⟩

end Executor

end DrawingBoard

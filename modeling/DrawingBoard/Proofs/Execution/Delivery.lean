/-
What a queue delivers over a whole history.

Operations are posted, pulls are made, and the queue is closed and opened again, all in
any order.  A pull is answered at once or by a later event, and what it gets in the end
is counted where it gets it.  Counted in this way every event conserves operations: what
was queued and what is posted is what the pull gets, if it gets an operation, followed
by what is queued then (`delivers_step`).  So all that was ever posted has been
delivered, in the order in which it was posted, or is still queued
(`posted_eq_delivered`).

The one invariant is that a pull waits only at an open and empty queue.  It is what
makes opening the queue harmless, which answers nobody.
-/
import DrawingBoard.Execution.Queue
import DrawingBoard.Proofs.Transcript
import Mathlib.Data.List.Flatten

namespace DrawingBoard

/-- The operation that a pull got. -/
def Yield.op? : Yield → Option Operation
  | .work op => some op
  | .noMore => none

namespace Queue

/-! ### Histories -/

/-- What can happen to a queue. -/
inductive Event where
  | push (op : Operation)
  | pushAll (ops : List Operation)
  | pull
  | close
  | reopen
deriving DecidableEq

/-- The operations that are posted with an event. -/
def Event.posted : Event → List Operation
  | .push op => [op]
  | .pushAll ops => ops
  | _ => []

/-- What the pull that is made or that waits gets with an event, if it is answered, and the
queue afterwards. -/
def step (q : Queue) : Event → Option Yield × Queue
  | .push op => q.push op
  | .pushAll ops => q.pushAll ops
  | .pull =>
    match q.pull with
    | (.got yield, q) => (some yield, q)
    | (_, q) => (none, q)
  | .close => q.close
  | .reopen => (none, q.reopen)

/-- All operations that are posted in a history, in the order in which they are posted. -/
def posted (events : List Event) : List Operation := events.flatMap Event.posted

/-- The operations that pulls have got, in the order in which they got them. -/
def delivered (entries : List (Entry Queue Event (Option Yield))) : List Operation :=
  entries.filterMap fun entry => entry.answer.bind Yield.op?

/-! ### One event -/

/-- A pull waits only at a queue that is open and empty. -/
structure Sound (q : Queue) : Prop where
  starved : q.waiting = true → q.items = []
  opened : q.waiting = true → q.closed = false

/-- What an event by which `new` operations are posted does to a queue. -/
structure Delivers (q : Queue) (new : List Operation) (step : Option Yield × Queue) : Prop where
  /-- Nothing is lost, made up, or moved past another. -/
  conserves : q.items ++ new = (step.1.bind Yield.op?).toList ++ step.2.items
  sound : step.2.Sound
  /-- That there is no more work is said by a closed queue only, -/
  ends : step.1 = some .noMore → step.2.closed = true
  /-- and operations are given out by an open one only. -/
  works : ∀ op, step.1 = some (.work op) → q.closed = false ∧ step.2.closed = false

/-- What a pull takes, it takes from the front of an open queue. -/
theorem take?_cases (q : Queue) :
    (q.closed = true ∧ q.take? = some (.noMore, q)) ∨
    (q.closed = false ∧ q.items = [] ∧ q.take? = none) ∨
    (q.closed = false ∧ ∃ op rest, q.items = op :: rest ∧
      q.take? = some (.work op, { q with items := rest })) := by
  obtain ⟨items, closed, waiting⟩ := q
  cases closed with
  | true => exact .inl ⟨rfl, rfl⟩
  | false =>
      cases items with
      | nil => exact .inr (.inl ⟨rfl, rfl, rfl⟩)
      | cons op rest => exact .inr (.inr ⟨rfl, op, rest, rfl, rfl⟩)

/-- Serving a pull that may wait. -/
theorem delivers_serve (q : Queue) : Delivers q [] q.serve := by
  unfold serve
  cases hwaiting : q.waiting with
  | false =>
      refine ⟨by simp, ⟨?_, ?_⟩, by simp, by simp⟩ <;> simp [hwaiting]
  | true =>
      rcases q.take?_cases with
        ⟨hclosed, htake⟩ | ⟨hopen, hitems, htake⟩ | ⟨hopen, op, rest, hitems, htake⟩
      · simp only [htake, if_true]
        refine ⟨by simp [Yield.op?], ⟨?_, ?_⟩, by simp [hclosed], by simp⟩ <;> simp
      · simp only [htake, if_true]
        exact ⟨by simp, ⟨fun _ => hitems, fun _ => hopen⟩, by simp, by simp⟩
      · simp only [htake, if_true]
        refine ⟨by simp [Yield.op?, hitems], ⟨?_, ?_⟩, by simp, by simp [hopen]⟩ <;> simp

theorem delivers_pushAll (q : Queue) (ops : List Operation) : Delivers q ops (q.pushAll ops) := by
  have hserve := delivers_serve { q with items := q.items ++ ops }
  refine ⟨?_, hserve.sound, hserve.ends, hserve.works⟩
  have hconserves := hserve.conserves
  rwa [List.append_nil] at hconserves

theorem delivers_pull {q : Queue} (h : q.Sound) : Delivers q [] (q.step .pull) := by
  unfold step pull
  cases hwaiting : q.waiting with
  | true => exact ⟨by simp, h, by simp, by simp⟩
  | false =>
      rcases q.take?_cases with
        ⟨hclosed, htake⟩ | ⟨hopen, hitems, htake⟩ | ⟨hopen, op, rest, hitems, htake⟩
      · simp only [htake, Bool.false_eq_true, if_false]
        refine ⟨by simp [Yield.op?], ⟨?_, ?_⟩, by simp [hclosed], by simp⟩ <;> simp [hwaiting]
      · simp only [htake, Bool.false_eq_true, if_false]
        exact ⟨by simp, ⟨fun _ => hitems, fun _ => hopen⟩, by simp, by simp⟩
      · simp only [htake, Bool.false_eq_true, if_false]
        refine ⟨by simp [Yield.op?, hitems], ⟨?_, ?_⟩, by simp, by simp [hopen]⟩ <;>
          simp [hwaiting]

/-- A queue that is being closed gives out no operation. -/
theorem delivers_close (q : Queue) : Delivers q [] q.close := by
  have hserve := delivers_serve { q with closed := true }
  refine ⟨hserve.conserves, hserve.sound, hserve.ends, fun op hwork => ?_⟩
  have hopen := (hserve.works op hwork).1
  simp at hopen

theorem delivers_step {q : Queue} (h : q.Sound) (event : Event) :
    Delivers q event.posted (q.step event) := by
  cases event with
  | push op => exact q.delivers_pushAll [op]
  | pushAll ops => exact q.delivers_pushAll ops
  | pull => exact delivers_pull h
  | close => exact q.delivers_close
  | reopen =>
      exact ⟨List.append_nil _, ⟨h.starved, fun _ => rfl⟩, by simp [step], by simp [step]⟩

/-! ### Waiting and waking -/

/-- A pull that waits gets the first operation that is posted. -/
theorem pushAll_of_waiting {q : Queue} (h : q.Sound) (hwaiting : q.waiting = true)
    (op : Operation) (rest : List Operation) :
    q.pushAll (op :: rest) = (some (.work op), { q with items := rest, waiting := false }) := by
  have hitems := h.starved hwaiting
  have hopen := h.opened hwaiting
  simp [pushAll, serve, take?, hwaiting, hitems, hopen]

theorem close_of_waiting {q : Queue} (hwaiting : q.waiting = true) :
    q.close = (some .noMore, { q with closed := true, waiting := false }) := by
  simp [close, serve, take?, hwaiting]

/-- Posting nothing and opening the queue leave a pull waiting. -/
theorem step_of_waiting {q : Queue} (h : q.Sound) (hwaiting : q.waiting = true) :
    q.step (.pushAll []) = (none, q) ∧ q.step .reopen = (none, q) := by
  obtain ⟨items, closed, waiting⟩ := q
  obtain rfl : waiting = true := hwaiting
  obtain rfl : items = [] := h.starved rfl
  obtain rfl : closed = false := h.opened rfl
  exact ⟨rfl, rfl⟩

theorem close_close (q : Queue) : q.close.2.close = (none, q.close.2) := by
  obtain ⟨items, closed, waiting⟩ := q
  cases waiting <;> rfl

/-- How a queue deals with pulls. -/
structure ServesPulls (q : Queue) : Prop where
  /-- A pull waits at an open and empty queue only, -/
  waits : q.waiting = true → q.items = [] ∧ q.closed = false
  /-- and there it does wait. -/
  parks : q.waiting = false → q.items = [] → q.closed = false →
    q.step .pull = (none, { q with waiting := true })
  /-- It is answered with the first operation that is posted, -/
  woken : q.waiting = true → ∀ op rest,
    q.step (.pushAll (op :: rest)) = (some (.work op), { q with items := rest, waiting := false })
  wokenByOne : q.waiting = true → ∀ op,
    q.step (.push op) = (some (.work op), { q with waiting := false })
  /-- or when the queue is closed, -/
  dismissed : q.waiting = true →
    q.step .close = (some .noMore, { q with closed := true, waiting := false })
  /-- and not when nothing is posted or the queue is opened. -/
  asleep : q.waiting = true → q.step (.pushAll []) = (none, q) ∧ q.step .reopen = (none, q)
  /-- A closed queue answers every pull that there is no more work, and gives out nothing. -/
  closed : q.closed = true →
    q.step .pull = (some .noMore, q) ∧ ∀ event op, (q.step event).1 ≠ some (.work op)
  /-- That there is no more work is said by a closed queue only. -/
  ended : ∀ event, (q.step event).1 = some .noMore → (q.step event).2.closed = true
  /-- Closing the queue again changes nothing. -/
  closedTwice : (q.step .close).2.step .close = (none, (q.step .close).2)

theorem servesPulls {q : Queue} (h : q.Sound) : q.ServesPulls where
  waits := fun hwaiting => ⟨h.starved hwaiting, h.opened hwaiting⟩
  parks := fun hfree hitems hopen => by simp [step, pull, take?, hfree, hitems, hopen]
  woken := pushAll_of_waiting h
  wokenByOne := fun hwaiting op => by
    rw [step, push, pushAll_of_waiting h hwaiting, ← h.starved hwaiting]
  dismissed := close_of_waiting
  asleep := step_of_waiting h
  closed := fun hclosed => by
    have hfree : q.waiting = false := by
      rw [← Bool.not_eq_true]
      intro hwaiting
      simp [h.opened hwaiting] at hclosed
    refine ⟨by simp [step, pull, take?, hfree, hclosed], fun event op hwork => ?_⟩
    have hopen := ((delivers_step h event).works op hwork).1
    simp [hclosed] at hopen
  ended := fun event => (delivers_step h event).ends
  closedTwice := q.close_close

/-! ### Conservation -/

/-- What the events so far have posted is accounted for. -/
structure Accounted (past : List (Entry Queue Event (Option Yield))) (q : Queue) : Prop where
  conserves : posted (past.map (·.input)) = delivered past ++ q.items
  sound : q.Sound

theorem delivered_concat (past : List (Entry Queue Event (Option Yield)))
    (entry : Entry Queue Event (Option Yield)) :
    delivered (past ++ [entry]) = delivered past ++ (entry.answer.bind Yield.op?).toList := by
  cases hop : entry.answer.bind Yield.op? <;> simp [delivered, hop]

theorem accounted (events : List Event) :
    Accounted (transcript step {} events) (stateAfter step {} events) := by
  refine transcript_keeps (I := Accounted) (fun past q event h => ?_) events
    ⟨rfl, ⟨by simp, by simp⟩⟩
  have hstep := delivers_step h.sound event
  refine ⟨?_, hstep.sound⟩
  rw [delivered_concat, List.append_assoc, ← hstep.conserves, ← List.append_assoc, ← h.conserves]
  simp [posted]

/--
**No history of a queue loses, doubles or reorders an operation.**

After any history the operations that were posted are those that pulls have got,
followed by those in the queue.  So operations that were posted in one go stay
together, and those of each of several posters keep their order.  Pulls wait and are
answered as `ServesPulls` says.
-/
theorem posted_eq_delivered (events : List Event) :
    posted events = delivered (transcript step {} events) ++ (stateAfter step {} events).items ∧
      (∀ ops, .pushAll ops ∈ events →
        ops <:+: delivered (transcript step {} events) ++ (stateAfter step {} events).items) ∧
      (∀ mine, mine.Sublist events →
        (posted mine).Sublist
          (delivered (transcript step {} events) ++ (stateAfter step {} events).items)) ∧
      (stateAfter step {} events).ServesPulls := by
  have haccounted := accounted events
  have hconserves := haccounted.conserves
  rw [map_input_transcript] at hconserves
  refine ⟨hconserves, fun ops hops => ?_, fun mine hmine => ?_, servesPulls haccounted.sound⟩
  · rw [← hconserves]
    obtain ⟨before, after, rfl⟩ := List.append_of_mem hops
    exact ⟨posted before, posted after, by simp [posted, Event.posted]⟩
  · rw [← hconserves]
    exact hmine.flatMap Event.posted

/-- A pull that waits and gets the first of two operations, an end with the other one queued, and
a pull after the queue was opened again. -/
def reopened : List Event :=
  [.pull, .pushAll [], .pushAll [.fill Color.white, .reset], .close, .pull, .push .update, .reopen,
    .pull]

/-- The pull in between is told that there is no more work, and nothing is lost by it. -/
theorem posted_eq_delivered_reopened :
    (transcript step {} reopened).map (·.answer)
        = [none, none, some (.work (.fill Color.white)), none, some .noMore, none, none,
          some (.work .reset)] ∧
      .pushAll [.fill Color.white, .reset] ∈ reopened ∧
      [.fill Color.white, .reset] <:+: delivered (transcript step {} reopened)
        ++ (stateAfter step {} reopened).items ∧
      [Event.push .update].Sublist reopened ∧
      [Operation.update].Sublist
        (delivered (transcript step {} reopened) ++ (stateAfter step {} reopened).items) ∧
      (stateAfter step {} [.pull]).waiting = true ∧
      (stateAfter step {} [.pull]).step (.push .update) = (some (.work .update), {}) := by
  have hmem : .pushAll [.fill Color.white, .reset] ∈ reopened := by simp [reopened]
  have hsublist : [Event.push .update].Sublist reopened := by simp [reopened]
  have hwaiting : (stateAfter step {} [.pull]).waiting = true := by decide
  obtain ⟨-, hbatch, hposter, -⟩ := posted_eq_delivered reopened
  obtain ⟨-, -, -, hserves⟩ := posted_eq_delivered [.pull]
  exact ⟨by decide, hmem, hbatch _ hmem, hsublist, hposter _ hsublist, hwaiting,
    hserves.wokenByOne hwaiting .update⟩

end Queue

end DrawingBoard

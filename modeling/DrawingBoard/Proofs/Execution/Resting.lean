/-
The executor between two steps.

Between two steps the worker is at rest: inside a notification, waiting at the empty
queue, or gone.  `AtRest` says what queue, phase and worker then have to do with each
other, and every step leads from rest to rest.  On the way no operation is lost, made
up or moved past another: what was queued and what is newly posted is what the step
applies followed by what is queued then.  And each operation that is applied begins a
notification, so applications and notifications take turns (`Balanced`).

Only three things can happen in the end.  A worker that pulls from an open queue takes
the first operation or starts to wait; one that pulls from a closed queue exits
(`pull_cases`); and otherwise the queue just grows.  A worker that waits is at an open
queue, but one inside a notification need not be: the queue may have been closed since
it pulled.
-/
import DrawingBoard.Execution.Executor

namespace DrawingBoard

namespace Executor

/-- What holds between two steps. -/
structure AtRest (e : Executor) : Prop where
  /-- The pull that the queue remembers is the worker's. -/
  parked : e.queue.waiting = true ↔ e.worker = .waiting
  /-- A worker waits only for want of operations. -/
  starved : e.worker = .waiting → e.queue.items = []
  /-- No worker waits at a closed queue. -/
  opened : e.worker = .waiting → e.queue.closed = false
  /-- The phase is `running` from the start of a worker to its end. -/
  running : e.phase = .running ↔ e.worker.isAlive = true ∨ e.worker = .panicked
  /-- While the phase is `idle` there was no worker yet. -/
  unstarted : e.phase = .idle → e.worker = .absent
  /-- The thread that is noted is the last worker's, until that is joined. -/
  noted : e.noted = if e.worker = .absent then none else some e.thread

/-- How many notifications are in progress. -/
def inProgress (e : Executor) : Nat := if e.worker = .notifying then 1 else 0

/-- The books balance over a step, or several, by which `new` operations are posted. -/
structure Balanced (e : Executor) (new : List Operation) (step : Progress × Executor) : Prop where
  /-- Nothing is lost, made up, or moved past another. -/
  conserves : e.queue.items ++ new = step.1.applied ++ step.2.queue.items
  /-- A notification begins with each operation that is applied, and ends in one way. -/
  notifies : e.inProgress + step.1.applied.length
    = step.1.returned + step.1.panicked + step.2.inProgress
  atRest : step.2.AtRest

/-- A single step balances, and does not go on past the next notification. -/
structure Orderly (e : Executor) (new : List Operation) (step : Progress × Executor) : Prop
    extends Balanced e new step where
  single : step.1.applied.length ≤ 1

/-- A step on which the worker does not panic. -/
structure Step (e : Executor) (new : List Operation) (step : Progress × Executor) : Prop
    extends Orderly e new step where
  calm : e.worker ≠ .panicked → step.2.worker ≠ .panicked

theorem Balanced.refl {e : Executor} (h : e.AtRest) : Balanced e [] ({}, e) :=
  ⟨by simp, by simp, h⟩

theorem Balanced.trans {e : Executor} {new new' : List Operation} {step step' : Progress × Executor}
    (h : Balanced e new step) (h' : Balanced step.2 new' step') :
    Balanced e (new ++ new') (step.1 ++ step'.1, step'.2) where
  conserves := by
    rw [Progress.applied_append, ← List.append_assoc, h.conserves, List.append_assoc,
      h'.conserves, List.append_assoc]
  notifies := by
    have hfirst := h.notifies
    have hlater := h'.notifies
    simp only [Progress.applied_append, Progress.returned_append, Progress.panicked_append,
      List.length_append]
    omega
  atRest := h'.atRest

theorem atRest_default : AtRest {} := by
  constructor <;> simp [Worker.isAlive]

/-- Until it is joined, the thread of the worker is noted. -/
theorem AtRest.noted_of_ne {e : Executor} (h : e.AtRest) (hw : e.worker ≠ .absent) :
    e.noted = some e.thread := h.noted.trans (if_neg hw)

theorem not_parked {e : Executor} (h : e.AtRest) (hw : e.worker ≠ .waiting) :
    e.queue.waiting = false := by
  rw [← Bool.not_eq_true, h.parked]
  exact hw

/-- During a notification the phase is `running`, the worker's thread is noted, and no pull is
under way. -/
theorem AtRest.of_notifying {e : Executor} (h : e.AtRest) (hn : e.worker = .notifying) :
    e.queue.waiting = false ∧ e.phase = .running ∧ e.noted = some e.thread :=
  ⟨not_parked h (by simp [hn]), h.running.mpr (.inl (by rw [hn]; rfl)),
    h.noted_of_ne (by simp [hn])⟩

/-- A step that does nothing. -/
theorem Step.refl {e : Executor} (h : e.AtRest) : Step e [] ({}, e) :=
  ⟨⟨.refl h, by simp⟩, id⟩

/-! ### Pulling -/

/-- A worker that pulls exits from a closed queue, waits at an empty one, or takes the first
operation. -/
theorem pull_cases {e : Executor} (hfree : e.queue.waiting = false) :
    (e.queue.closed = true ∧ e.pull = ({}, { e with worker := .exited, phase := .terminated })) ∨
    (e.queue.closed = false ∧ e.queue.items = [] ∧
      e.pull = ({}, { e with queue := { e.queue with waiting := true }, worker := .waiting })) ∨
    (e.queue.closed = false ∧ ∃ op rest, e.queue.items = op :: rest ∧
      e.pull = ({ applied := [op] },
        { e with queue := { e.queue with items := rest }, worker := .notifying })) := by
  obtain ⟨⟨items, closed, waiting⟩, phase, worker, started, noted⟩ := e
  simp only at hfree
  subst hfree
  cases closed with
  | true => exact .inl ⟨rfl, rfl⟩
  | false =>
      cases items with
      | nil => exact .inr (.inl ⟨rfl, rfl, rfl⟩)
      | cons op rest => exact .inr (.inr ⟨rfl, op, rest, rfl, rfl⟩)

/-- The balance of a pull by a worker that has noted its thread. -/
theorem step_pull {e : Executor} (hfree : e.queue.waiting = false) (hnone : e.worker ≠ .notifying)
    (hphase : e.phase = .running) (hnoted : e.noted = some e.thread) : Step e [] e.pull := by
  rcases pull_cases hfree with
    ⟨-, hpull⟩ | ⟨hopen, hitems, hpull⟩ | ⟨-, op, rest, hitems, hpull⟩
  · rw [hpull]
    refine ⟨⟨⟨by simp, by simp [inProgress, hnone], ?_⟩, by simp⟩, fun _ => by simp⟩
    constructor <;> simp [Worker.isAlive, hfree, hnoted, thread]
  · rw [hpull]
    refine ⟨⟨⟨by simp, by simp [inProgress, hnone], ?_⟩, by simp⟩, fun _ => by simp⟩
    constructor <;> simp [Worker.isAlive, hopen, hitems, hphase, hnoted, thread]
  · rw [hpull]
    refine ⟨⟨⟨by simp [hitems], by simp [inProgress, hnone], ?_⟩, by simp⟩, fun _ => by simp⟩
    constructor <;> simp [Worker.isAlive, hfree, hphase, hnoted, thread]

/-- At an open queue a worker that has pulled lives on. -/
theorem pull_of_open {e : Executor} (hfree : e.queue.waiting = false)
    (hopen : e.queue.closed = false) :
    e.pull.2.worker.isAlive = true ∧ e.pull.2.queue.closed = false ∧ e.pull.2.phase = e.phase := by
  rcases pull_cases hfree with ⟨hclosed, -⟩ | ⟨-, -, hpull⟩ | ⟨-, op, rest, -, hpull⟩
  · rw [hopen] at hclosed
    exact absurd hclosed Bool.false_ne_true
  · rw [hpull]
    exact ⟨rfl, hopen, rfl⟩
  · rw [hpull]
    exact ⟨rfl, hopen, rfl⟩

/-! ### Posting -/

/-- Without a worker that waits, posting only makes the queue longer. -/
theorem postAll_of_free {e : Executor} (hfree : e.queue.waiting = false) (ops : List Operation) :
    e.postAll ops = ({}, { e with queue := { e.queue with items := e.queue.items ++ ops } }) := by
  simp [postAll, Queue.pushAll, Queue.serve, wake, hfree]

/-- A worker that waits gets the first of the operations that are posted. -/
theorem postAll_of_waiting {e : Executor} (h : e.AtRest) (hw : e.worker = .waiting)
    (op : Operation) (rest : List Operation) :
    e.postAll (op :: rest)
      = ({ applied := [op] },
        { e with
          queue := { e.queue with items := rest, waiting := false }
          worker := .notifying }) := by
  have hopen := h.opened hw
  have hparked := h.parked.mpr hw
  have hitems := h.starved hw
  simp [postAll, Queue.pushAll, Queue.serve, Queue.take?, wake, receive, hopen, hparked, hitems]

/-- Posting nothing does nothing. -/
theorem postAll_nil {e : Executor} (h : e.AtRest) : e.postAll [] = ({}, e) := by
  by_cases hw : e.worker = .waiting
  · have hopen := h.opened hw
    have hitems := h.starved hw
    obtain ⟨⟨items, closed, waiting⟩, phase, worker, started, noted⟩ := e
    simp only at hopen hitems
    subst hopen hitems
    cases waiting <;> rfl
  · rw [postAll_of_free (not_parked h hw), List.append_nil]

theorem step_postAll {e : Executor} (h : e.AtRest) (ops : List Operation) :
    Step e ops (e.postAll ops) := by
  by_cases hw : e.worker = .waiting
  · cases ops with
    | nil =>
        rw [postAll_nil h]
        exact .refl h
    | cons op rest =>
        have hphase := h.running.mpr (.inl (by rw [hw]; rfl))
        rw [postAll_of_waiting h hw]
        refine ⟨⟨⟨by simp [h.starved hw], by simp [inProgress, hw], ?_⟩, by simp⟩, fun _ => by simp⟩
        constructor <;> simp [Worker.isAlive, hphase, h.noted_of_ne (by simp [hw]), thread]
  · rw [postAll_of_free (not_parked h hw)]
    exact ⟨⟨⟨by simp, by simp [inProgress],
      ⟨h.parked, fun hc => absurd hc hw, h.opened, h.running, h.unstarted, h.noted⟩⟩, by simp⟩, id⟩

/-! ### Notifications -/

theorem release?_eq_some_iff {e : Executor} {step : Progress × Executor} :
    e.release? = some step ↔
      e.worker = .notifying ∧ ({ returned := 1 } ++ e.pull.1, e.pull.2) = step := by
  unfold release?
  split <;> simp_all

theorem step_release {e : Executor} (h : e.AtRest) {step : Progress × Executor}
    (hstep : e.release? = some step) : Step e [] step := by
  obtain ⟨hn, rfl⟩ := release?_eq_some_iff.mp hstep
  obtain ⟨hfree, hphase, hnoted⟩ := h.of_notifying hn
  -- A pull does not look at the worker, whose notification is over by now.
  have hpull : Step { e with worker := .absent } [] e.pull :=
    step_pull hfree (by simp) hphase hnoted
  have hnotifies : 0 + e.pull.1.applied.length
      = e.pull.1.returned + e.pull.1.panicked + e.pull.2.inProgress := hpull.notifies
  refine ⟨⟨⟨hpull.conserves, ?_, hpull.atRest⟩, hpull.single⟩, fun _ => hpull.calm (by simp)⟩
  rw [inProgress, if_pos hn]
  simp only [Progress.applied_append, Progress.returned_append, Progress.panicked_append,
    List.nil_append]
  omega

/-- Outside a notification there is nothing to release. -/
theorem release?_eq_none_iff {e : Executor} : e.release? = none ↔ e.worker ≠ .notifying := by
  unfold release?
  split <;> simp_all

/-- A notification that panics ends, and the worker with it. -/
theorem orderly_panicInside {e : Executor} (h : e.AtRest) {step : Progress × Executor}
    (hstep : e.panicInside? = some step) : Orderly e [] step := by
  unfold panicInside? at hstep
  by_cases hn : e.worker = .notifying
  · rw [if_pos hn] at hstep
    obtain ⟨hfree, hphase, hnoted⟩ := h.of_notifying hn
    rw [← Option.some.inj hstep]
    refine ⟨⟨by simp, by simp [inProgress, hn], ?_⟩, by simp⟩
    constructor <;> simp [hfree, hphase, hnoted, thread]
  · rw [if_neg hn] at hstep
    simp at hstep

/-- A worker that is in a notification after a pull has taken something off the queue. -/
theorem pending_lt_of_pull {e : Executor} (h : e.pull.2.worker = .notifying) :
    e.pull.2.pending < e.pending := by
  obtain ⟨⟨items, closed, waiting⟩, phase, worker, started, noted⟩ := e
  cases waiting with
  | true => simp [pull, Queue.pull] at h
  | false =>
      cases closed with
      | true => simp [pull, Queue.pull, Queue.take?, receive] at h
      | false =>
          cases items with
          | nil => simp [pull, Queue.pull, Queue.take?] at h
          | cons op rest => exact Nat.lt_succ_self rest.length

theorem releaseUpTo_of_free {e : Executor} (h : e.worker ≠ .notifying) (n : Nat) :
    releaseUpTo n e = ({}, e) := by
  cases n with
  | zero => rfl
  | succ n => rw [releaseUpTo, release?_eq_none_iff.mpr h]

theorem releaseUpTo_free (n : Nat) :
    ∀ {e : Executor}, e.pending < n → (releaseUpTo n e).2.worker ≠ .notifying := by
  induction n with
  | zero => intro e h; exact absurd h (Nat.not_lt_zero _)
  | succ n ih =>
      intro e h
      by_cases hn : e.worker = .notifying
      · rw [releaseUpTo, release?, if_pos hn]
        by_cases hagain : e.pull.2.worker = .notifying
        · have := pending_lt_of_pull hagain
          exact ih (by omega)
        · show (releaseUpTo n e.pull.2).2.worker ≠ .notifying
          rw [releaseUpTo_of_free hagain]
          exact hagain
      · rw [releaseUpTo_of_free hn]
        exact hn

/-- **Draining ends outside a notification.** -/
theorem drain_free (e : Executor) : e.drain.2.worker ≠ .notifying :=
  releaseUpTo_free _ (Nat.lt_succ_self _)

/-! ### Starting -/

theorem start_of_isAlive {e : Executor} (h : e.worker.isAlive = true) :
    e.start = .error .alreadyRunning := if_pos h

theorem start_of_not_isAlive {e : Executor} (h : e.worker.isAlive = false) :
    e.start = .ok e.spawn.pull :=
  if_neg (by simp [h])

/-- A start succeeds if no worker is alive, and then one is, at an open queue. -/
theorem start_eq_ok {e : Executor} (h : e.AtRest) (hdead : e.worker.isAlive = false) :
    ∃ step, e.start = .ok step ∧ Step e [] step ∧ step.2.worker.isAlive = true ∧
      step.2.queue.closed = false ∧ step.2.phase = .running := by
  have hfree : e.queue.waiting = false :=
    not_parked h fun hw => by simp [hw, Worker.isAlive] at hdead
  have hnone : e.worker ≠ .notifying := fun hn => by simp [hn, Worker.isAlive] at hdead
  have hpull := step_pull (e := e.spawn) hfree hnone rfl rfl
  exact ⟨_, start_of_not_isAlive hdead,
    ⟨⟨⟨hpull.conserves, hpull.notifies, hpull.atRest⟩, hpull.single⟩, hpull.calm⟩,
    pull_of_open hfree rfl⟩

theorem step_start {e : Executor} (h : e.AtRest) {step : Progress × Executor}
    (hstep : e.start = .ok step) : Step e [] step := by
  cases hlive : e.worker.isAlive with
  | true =>
      rw [start_of_isAlive hlive] at hstep
      simp at hstep
  | false =>
      obtain ⟨step', hok, hstep', -⟩ := start_eq_ok h hlive
      rw [hok, Except.ok.injEq] at hstep
      exact hstep ▸ hstep'

/-! ### Terminating -/

/-- Without a worker that waits, closing the queue does nothing else. -/
theorem close_of_free {e : Executor} (hfree : e.queue.waiting = false) :
    e.close = ({}, { e with queue := { e.queue with closed := true } }) := by
  simp [close, Queue.close, Queue.serve, wake, hfree]

theorem noted_close (e : Executor) : e.close.2.noted = e.noted := by
  cases hclose : e.queue.close with
  | mk answer queue =>
      unfold close
      rw [hclose]
      rcases answer with _ | ⟨_ | _⟩ <;> rfl

theorem terminateOn_of_noted {e : Executor} {caller : Thread} (h : e.noted = some caller) :
    e.terminateOn caller = e.close := by
  have hnoted : e.close.2.noted = some caller := (noted_close e).trans h
  exact if_pos hnoted

theorem terminateOn_of_not_noted {e : Executor} {caller : Thread} (h : e.noted ≠ some caller) :
    e.terminateOn caller = (e.close.1 ++ e.close.2.await.1, e.close.2.await.2) := by
  have hnoted : e.close.2.noted ≠ some caller := by rwa [noted_close]
  exact if_neg hnoted

/-- **A call from the worker's own thread only closes the queue**; its notification goes on. -/
theorem terminateOn_thread {e : Executor} (h : e.AtRest) (hn : e.worker = .notifying) :
    e.terminateOn e.thread = ({}, { e with queue := { e.queue with closed := true } }) := by
  obtain ⟨hfree, -, hnoted⟩ := h.of_notifying hn
  rw [terminateOn_of_noted hnoted, close_of_free hfree]

/-- **A call from any other thread returns when the worker is joined**, and what was queued is
queued still. -/
theorem terminateOn_of_ne {e : Executor} (h : e.AtRest) {caller : Thread}
    (hcaller : caller ≠ e.thread) :
    e.terminateOn caller =
      ({ returned := if e.worker = .notifying then 1 else 0 },
        { queue := { e.queue with closed := true, waiting := false }
          phase := if e.worker = .absent then e.phase else .terminated
          worker := .absent
          started := e.started
          noted := none }) := by
  have hnoted : e.noted ≠ some caller := by
    rw [h.noted]
    by_cases habsent : e.worker = .absent
    · simp [habsent]
    · simp [habsent, hcaller.symm]
  rw [terminateOn_of_not_noted hnoted]
  have hparked := h.parked
  have hforgotten : e.worker = .absent → e.noted = none := fun hw => h.noted.trans (if_pos hw)
  obtain ⟨⟨items, closed, waiting⟩, phase, worker, started, noted⟩ := e
  cases worker with
  | absent =>
      obtain rfl : waiting = false := by simpa using hparked
      obtain rfl : noted = none := hforgotten rfl
      rfl
  | waiting =>
      obtain rfl : waiting = true := hparked.mpr rfl
      rfl
  | notifying | exited | panicked =>
      obtain rfl : waiting = false := by simpa using hparked
      rfl

/-- After terminating there is no worker, and what was queued is queued still. -/
theorem terminate_eq {e : Executor} (h : e.AtRest) :
    e.terminate =
      ({ returned := if e.worker = .notifying then 1 else 0 },
        { queue := { e.queue with closed := true, waiting := false }
          phase := if e.worker = .absent then e.phase else .terminated
          worker := .absent
          started := e.started
          noted := none }) :=
  terminateOn_of_ne h (by simp [thread])

/-- Outside, one thread is like another. -/
theorem terminateOn_outside {e : Executor} (h : e.AtRest) (id : Nat) :
    e.terminateOn (.outside id) = e.terminate := by
  rw [terminate_eq h, terminateOn_of_ne h (by simp [thread])]

theorem step_terminate {e : Executor} (h : e.AtRest) : Step e [] e.terminate := by
  rw [terminate_eq h]
  refine ⟨⟨⟨by simp, by simp [inProgress], ?_⟩, by simp⟩, fun _ => by simp⟩
  have hphase : (if e.worker = .absent then e.phase else .terminated) ≠ .running := by
    by_cases habsent : e.worker = .absent
    · rw [if_pos habsent, Ne, h.running, habsent]
      simp [Worker.isAlive]
    · rw [if_neg habsent]
      simp
  constructor <;> simp [Worker.isAlive, hphase]

/-- A receiver that terminates the executor closes the queue and does nothing else. -/
theorem orderly_closeInside {e e' : Executor} (h : e.AtRest) (hclose : e.closeInside? = some e') :
    Orderly e [] ({}, e') := by
  unfold closeInside? at hclose
  by_cases hn : e.worker = .notifying
  · rw [if_pos hn, terminateOn_thread h hn, Option.some.injEq] at hclose
    subst hclose
    obtain ⟨hfree, hphase, hnoted⟩ := h.of_notifying hn
    refine ⟨⟨by simp, by simp [inProgress], ?_⟩, by simp⟩
    constructor <;> simp [hn, hfree, hphase, hnoted, Worker.isAlive, thread]
  · rw [if_neg hn] at hclose
    simp at hclose

end Executor

end DrawingBoard

/-
Which worker there is, and what the phase says about it.

An event can mean only a few things for the worker (`Fate`): nothing, going on, ending
in one of two ways, being joined, or, for a start that succeeds, beginning.  A start
succeeds only while no worker is alive, so workers follow one another and never run
side by side (`begun_run`).

The phase is kept by hand: a start sets it, a worker that exits sets it, and whoever
joins a worker sets it.  It nevertheless tells the history.  Nothing but a start that
succeeds leads away from `idle` or from `terminated`, so it is enough to look at what
happened since the last one (`lastStart?`): the phase is `terminated` as soon as the
worker has exited from a closed queue or was terminated from outside, and no sooner.  A
worker that panicked does neither, and leaves the phase at `running`.
-/
import DrawingBoard.Proofs.Execution.Histories

namespace DrawingBoard

namespace Executor

/-! ### Starts that succeed -/

/-- Does a worker begin with the event? -/
def begins (e : Executor) : Event → Bool
  | .start => e.start.isOk
  | _ => false

/-- The executor right after the last start in a history that succeeded, and what happened
since. -/
def lastStart? (e : Executor) : List Event → Option (Executor × List Event)
  | [] => none
  | event :: rest =>
    match lastStart? (e.step event).2 rest with
    | some last => some last
    | none => if e.begins event then some ((e.step event).2, rest) else none

/-- The number of workers that begin in a history. -/
def begun (e : Executor) : List Event → Nat
  | [] => 0
  | event :: rest => (e.begins event).toNat + begun (e.step event).2 rest

/-- The number of live workers that end in a history. -/
def ended (e : Executor) : List Event → Nat
  | [] => 0
  | event :: rest =>
    (e.worker.isAlive && !(e.step event).2.worker.isAlive).toNat + ended (e.step event).2 rest

/-- The worker has exited from a closed queue, or somebody outside has terminated the executor
and returned. -/
def Stopped (e : Executor) (since : List Event) : Prop :=
  (∃ others, .terminate others ∈ since) ∨ ∃ past, past <+: since ∧ (e.run past).2.worker = .exited

/-! ### What an event means for the worker -/

/-- What has become of the worker after one step. -/
inductive Fate (e : Executor) (event : Event) (step : Progress × Executor) : Prop where
  /-- Nothing. -/
  | unmoved (hstart : e.begins event = false) (hevent : ∀ others, event ≠ .terminate others)
      (happlied : step.1.applied = []) (hworker : step.2.worker = e.worker)
      (hphase : step.2.phase = e.phase)
  /-- It goes on. -/
  | works (hstart : e.begins event = false) (hevent : ∀ others, event ≠ .terminate others)
      (hlive : e.worker.isAlive = true) (hlive' : step.2.worker.isAlive = true)
      (hphase : step.2.phase = e.phase)
  /-- It panics, and the phase does not show it. -/
  | panics (hevent : event = .panicked) (hlive : e.worker.isAlive = true)
      (hworker : step.2.worker = .panicked) (hphase : step.2.phase = e.phase)
  /-- It finds the queue closed and exits. -/
  | exits (hevent : event = .returned) (hlive : e.worker.isAlive = true)
      (hworker : step.2.worker = .exited) (hphase : step.2.phase = .terminated)
  /-- There was none alive, and one begins. -/
  | begins (hstart : e.begins event = true) (hevent : event = .start)
      (hdead : e.worker.isAlive = false) (hlive' : step.2.worker.isAlive = true)
      (hphase : step.2.phase = .running)
  /-- It is joined by somebody outside, if there is one. -/
  | joined (hstart : e.begins event = false) (others : Nat) (hevent : event = .terminate others)
      (happlied : step.1.applied = []) (hworker : step.2.worker = .absent)
      (hphase : step.2.phase = if e.worker = .absent then e.phase else .terminated)

theorem fate_postAll {e : Executor} (h : e.AtRest) {event : Event} (ops : List Operation)
    (hstart : e.begins event = false) (hevent : ∀ others, event ≠ .terminate others) :
    Fate e event (e.postAll ops) := by
  by_cases hw : e.worker = .waiting
  · cases ops with
    | nil =>
        rw [postAll_nil h]
        exact .unmoved hstart hevent rfl rfl rfl
    | cons op rest =>
        rw [postAll_of_waiting h hw]
        exact .works hstart hevent (by rw [hw]; rfl) rfl rfl
  · rw [postAll_of_free (not_parked h hw)]
    exact .unmoved hstart hevent rfl rfl rfl

theorem begins_start (e : Executor) : e.begins .start = !e.worker.isAlive := by
  unfold begins
  cases hlive : e.worker.isAlive with
  | true => rw [start_of_isAlive hlive]; rfl
  | false => rw [start_of_not_isAlive hlive]; rfl

theorem fate_step {e : Executor} (h : e.AtRest) (event : Event) :
    Fate e event (e.step event) := by
  cases event with
  | post op => exact fate_postAll h [op] rfl (by simp)
  | postAll ops => exact fate_postAll h ops rfl (by simp)
  | start =>
      have hstart := e.begins_start
      cases hlive : e.worker.isAlive with
      | true =>
          rw [show e.step .start = ({}, e) by simp only [step, start_of_isAlive hlive]]
          rw [hlive] at hstart
          exact .unmoved hstart (by simp) rfl rfl rfl
      | false =>
          obtain ⟨next, hok, -, hlive', -, hphase⟩ := start_eq_ok h hlive
          rw [show e.step .start = next by simp only [step, hok]]
          rw [hlive] at hstart
          exact .begins hstart rfl hlive hlive' hphase
  | returned =>
      show Fate e .returned (e.release?.getD ({}, e))
      by_cases hn : e.worker = .notifying
      · have hlive : e.worker.isAlive = true := by rw [hn]; rfl
        rw [release?_eq_some_iff.mpr ⟨hn, rfl⟩, Option.getD_some]
        -- A notification returns, so the worker pulls again.
        rcases pull_cases (not_parked h (by simp [hn])) with
          ⟨-, hpull⟩ | ⟨-, -, hpull⟩ | ⟨-, op, rest, -, hpull⟩
        · rw [hpull]
          exact .exits rfl hlive rfl rfl
        · rw [hpull]
          exact .works rfl (by simp) hlive rfl rfl
        · rw [hpull]
          exact .works rfl (by simp) hlive rfl rfl
      · rw [release?_eq_none_iff.mpr hn]
        exact .unmoved rfl (by simp) rfl rfl rfl
  | panicked =>
      show Fate e .panicked (e.panicInside?.getD ({}, e))
      unfold panicInside?
      by_cases hn : e.worker = .notifying
      · rw [if_pos hn]
        exact .panics rfl (by rw [hn]; rfl) rfl rfl
      · rw [if_neg hn]
        exact .unmoved rfl (by simp) rfl rfl rfl
  | closing =>
      show Fate e .closing ({}, e.closeInside?.getD e)
      unfold closeInside?
      by_cases hn : e.worker = .notifying
      · rw [if_pos hn, terminateOn_thread h hn]
        exact .unmoved rfl (by simp) rfl rfl rfl
      · rw [if_neg hn]
        exact .unmoved rfl (by simp) rfl rfl rfl
  | terminate others =>
      rw [show e.step (.terminate others) = e.terminate from terminateBy_succ h others,
        terminate_eq h]
      exact .joined rfl others rfl rfl rfl rfl

/-! ### Workers follow one another -/

/-- Without a live worker nothing is applied, and only a start brings one to life. -/
theorem step_of_not_isAlive {e : Executor} (h : e.AtRest) (hdead : e.worker.isAlive = false)
    {event : Event} (hstart : e.begins event = false) :
    (e.step event).1.applied = [] ∧ (e.step event).2.worker.isAlive = false := by
  cases fate_step h event with
  | unmoved _ _ happlied hworker _ => exact ⟨happlied, by rw [hworker, hdead]⟩
  | works _ _ hlive => rw [hdead] at hlive; simp at hlive
  | panics _ hlive => rw [hdead] at hlive; simp at hlive
  | exits _ hlive => rw [hdead] at hlive; simp at hlive
  | begins hstart' => rw [hstart] at hstart'; simp at hstart'
  | joined _ _ _ happlied hworker => exact ⟨happlied, by rw [hworker]; rfl⟩

theorem lastStart?_cons_eq_none {e : Executor} {event : Event} {rest : List Event} :
    e.lastStart? (event :: rest) = none ↔
      (e.step event).2.lastStart? rest = none ∧ e.begins event = false := by
  rw [lastStart?]
  cases (e.step event).2.lastStart? rest <;> simp

/-- Until a start succeeds, nothing is applied. -/
theorem applied_run_of_not_isAlive (events : List Event) :
    ∀ {e : Executor}, e.AtRest → e.worker.isAlive = false → e.lastStart? events = none →
      (e.run events).1.applied = [] := by
  induction events with
  | nil => intro e _ _ _; rfl
  | cons event rest ih =>
      intro e h hdead hnone
      obtain ⟨hrest, hstart⟩ := lastStart?_cons_eq_none.mp hnone
      obtain ⟨happlied, hdead'⟩ := step_of_not_isAlive h hdead hstart
      show (e.step event).1.applied ++ ((e.step event).2.run rest).1.applied = []
      rw [happlied, ih (orderly_step h event).atRest hdead' hrest]
      rfl

theorem begun_step {e : Executor} (h : e.AtRest) (event : Event) :
    e.worker.isAlive.toNat + (e.begins event).toNat
      = (e.worker.isAlive && !(e.step event).2.worker.isAlive).toNat
        + (e.step event).2.worker.isAlive.toNat := by
  cases fate_step h event with
  | unmoved hstart _ _ hworker _ =>
      rw [hstart, hworker]
      cases e.worker.isAlive <;> rfl
  | works hstart _ hlive hlive' _ => rw [hstart, hlive, hlive']; rfl
  | panics hevent hlive hworker _ => subst hevent; rw [hlive, hworker]; rfl
  | exits hevent hlive hworker _ => subst hevent; rw [hlive, hworker]; rfl
  | begins hstart _ hdead hlive' _ => rw [hstart, hdead, hlive']; rfl
  | joined hstart _ _ _ hworker _ =>
      rw [hstart, hworker]
      cases e.worker.isAlive <;> rfl

/-- All workers that begin end, but for the one that is alive. -/
theorem begun_run (events : List Event) :
    ∀ {e : Executor}, e.AtRest →
      e.worker.isAlive.toNat + e.begun events
        = e.ended events + (e.run events).2.worker.isAlive.toNat := by
  induction events with
  | nil => intro e _; exact Nat.add_comm ..
  | cons event rest ih =>
      intro e h
      have hstep := begun_step h event
      have hrest := ih (orderly_step h event).atRest
      show e.worker.isAlive.toNat + ((e.begins event).toNat + begun (e.step event).2 rest)
        = (e.worker.isAlive && !(e.step event).2.worker.isAlive).toNat + ended (e.step event).2 rest
          + ((e.step event).2.run rest).2.worker.isAlive.toNat
      omega

/-! ### What the phase tells -/

theorem not_idle_of_isAlive {e : Executor} (h : e.AtRest) (hlive : e.worker.isAlive = true) :
    e.phase ≠ .idle := by
  rw [h.running.mpr (.inl hlive)]
  simp

theorem phase_eq_terminated_of_exited {e : Executor} (h : e.AtRest) (hw : e.worker = .exited) :
    e.phase = .terminated := by
  cases hphase : e.phase with
  | idle => have := h.unstarted hphase; rw [hw] at this; simp at this
  | running => have := h.running.mp hphase; rw [hw] at this; simp [Worker.isAlive] at this
  | terminated => rfl

/-- Only a start leads away from `idle`, and nothing leads back. -/
theorem phase_step_eq_idle_iff {e : Executor} (h : e.AtRest) {event : Event}
    (hstart : e.begins event = false) : (e.step event).2.phase = .idle ↔ e.phase = .idle := by
  cases fate_step h event with
  | unmoved _ _ _ _ hphase => rw [hphase]
  | works _ _ _ _ hphase => rw [hphase]
  | panics _ _ _ hphase => rw [hphase]
  | exits _ hlive _ hphase => simp [hphase, not_idle_of_isAlive h hlive]
  | begins hstart' => rw [hstart] at hstart'; simp at hstart'
  | joined _ _ _ _ _ hphase =>
      rw [hphase]
      by_cases habsent : e.worker = .absent
      · rw [if_pos habsent]
      · rw [if_neg habsent]
        exact ⟨fun hc => by simp at hc, fun hc => absurd (h.unstarted hc) habsent⟩

/-- Once a start has succeeded, a worker is missing only after it was joined. -/
theorem phase_eq_terminated_of_absent {e : Executor} (h : e.AtRest) (hbegun : e.phase ≠ .idle)
    (hw : e.worker = .absent) : e.phase = .terminated := by
  cases hphase : e.phase with
  | idle => exact absurd hphase hbegun
  | running => have := h.running.mp hphase; rw [hw] at this; simp [Worker.isAlive] at this
  | terminated => rfl

/-- After the first start the phase becomes `terminated` when the worker exits or is terminated
from outside, and stays so. -/
theorem phase_step_eq_terminated_iff {e : Executor} (h : e.AtRest) (hbegun : e.phase ≠ .idle)
    {event : Event} (hstart : e.begins event = false) :
    (e.step event).2.phase = .terminated ↔
      e.phase = .terminated ∨ (∃ others, event = .terminate others) ∨
        (e.step event).2.worker = .exited := by
  cases fate_step h event with
  | unmoved _ hevent _ hworker hphase =>
      rw [hphase, hworker]
      constructor
      · exact .inl
      · rintro (hphase' | ⟨others, heq⟩ | hexited)
        · exact hphase'
        · exact absurd heq (hevent others)
        · exact phase_eq_terminated_of_exited h hexited
  | works _ hevent _ hlive' hphase =>
      rw [hphase]
      constructor
      · exact .inl
      · rintro (hphase' | ⟨others, heq⟩ | hexited)
        · exact hphase'
        · exact absurd heq (hevent others)
        · rw [hexited] at hlive'; simp [Worker.isAlive] at hlive'
  | panics hevent _ hworker hphase =>
      rw [hphase, hworker]
      simp [hevent]
  | exits _ _ hworker hphase => simp [hphase, hworker]
  | begins hstart' => rw [hstart] at hstart'; simp at hstart'
  | joined _ others hevent _ _ hphase =>
      refine ⟨fun _ => .inr (.inl ⟨others, hevent⟩), fun _ => ?_⟩
      rw [hphase]
      by_cases habsent : e.worker = .absent
      · rw [if_pos habsent]
        exact phase_eq_terminated_of_absent h hbegun habsent
      · rw [if_neg habsent]

theorem stopped_nil {e : Executor} : e.Stopped [] ↔ e.worker = .exited := by
  constructor
  · rintro (⟨others, hmem⟩ | ⟨past, hpast, hexited⟩)
    · simp at hmem
    · rwa [List.prefix_nil.mp hpast] at hexited
  · intro hexited
    exact .inr ⟨[], List.prefix_refl [], hexited⟩

theorem stopped_cons {e : Executor} {event : Event} {rest : List Event} :
    e.Stopped (event :: rest) ↔
      e.worker = .exited ∨ (∃ others, event = .terminate others) ∨
        (e.step event).2.Stopped rest := by
  constructor
  · rintro (⟨others, hmem⟩ | ⟨past, hpast, hexited⟩)
    · rcases List.mem_cons.mp hmem with heq | hmem
      · exact .inr (.inl ⟨others, heq.symm⟩)
      · exact .inr (.inr (.inl ⟨others, hmem⟩))
    · cases past with
      | nil => exact .inl hexited
      | cons first past =>
          obtain ⟨rfl, hrest⟩ := List.cons_prefix_cons.mp hpast
          exact .inr (.inr (.inr ⟨past, hrest, hexited⟩))
  · rintro (hexited | ⟨others, rfl⟩ | ⟨others, hmem⟩ | ⟨past, hpast, hexited⟩)
    · exact .inr ⟨[], List.nil_prefix, hexited⟩
    · exact .inl ⟨others, List.mem_cons_self⟩
    · exact .inl ⟨others, List.mem_cons_of_mem _ hmem⟩
    · exact .inr ⟨event :: past, List.cons_prefix_cons.mpr ⟨rfl, hpast⟩, hexited⟩

theorem stopped_of_exited {e : Executor} (hexited : e.worker = .exited) (since : List Event) :
    e.Stopped since := .inr ⟨[], List.nil_prefix, hexited⟩

theorem phase_run_eq_idle (events : List Event) :
    ∀ {e : Executor}, e.AtRest → e.lastStart? events = none →
      ((e.run events).2.phase = .idle ↔ e.phase = .idle) := by
  induction events with
  | nil => intro e _ _; rfl
  | cons event rest ih =>
      intro e h hnone
      obtain ⟨hrest, hstart⟩ := lastStart?_cons_eq_none.mp hnone
      exact (ih (orderly_step h event).atRest hrest).trans (phase_step_eq_idle_iff h hstart)

theorem phase_run_eq_terminated_iff (events : List Event) :
    ∀ {e : Executor}, e.AtRest → e.phase ≠ .idle → e.lastStart? events = none →
      ((e.run events).2.phase = .terminated ↔ e.phase = .terminated ∨ e.Stopped events) := by
  induction events with
  | nil =>
      intro e h _ _
      rw [stopped_nil]
      exact ⟨.inl, fun hphase => hphase.elim id (phase_eq_terminated_of_exited h)⟩
  | cons event rest ih =>
      intro e h hbegun hnone
      obtain ⟨hrest, hstart⟩ := lastStart?_cons_eq_none.mp hnone
      have hbegun' := mt (phase_step_eq_idle_iff h hstart).mp hbegun
      rw [show (e.run (event :: rest)).2 = ((e.step event).2.run rest).2 from rfl,
        ih (orderly_step h event).atRest hbegun' hrest,
        phase_step_eq_terminated_iff h hbegun hstart, stopped_cons]
      -- A worker that has exited before the first event has set the phase by then.
      constructor
      · rintro ((hphase | hterminate | hexited) | hstopped)
        · exact .inl hphase
        · exact .inr (.inr (.inl hterminate))
        · exact .inr (.inr (.inr (stopped_of_exited hexited rest)))
        · exact .inr (.inr (.inr hstopped))
      · rintro (hphase | hexited | hterminate | hstopped)
        · exact .inl (.inl hphase)
        · exact .inl (.inl (phase_eq_terminated_of_exited h hexited))
        · exact .inl (.inr (.inl hterminate))
        · exact .inr hstopped

/-- The last start that succeeded leaves a running executor, and the rest of the history goes on
from there. -/
theorem lastStart?_eq_some (events : List Event) :
    ∀ {e s : Executor} {since : List Event}, e.AtRest → e.lastStart? events = some (s, since) →
      s.AtRest ∧ s.phase = .running ∧ s.lastStart? since = none ∧
        (s.run since).2 = (e.run events).2 := by
  induction events with
  | nil => intro e s since _ hlast; simp [lastStart?] at hlast
  | cons event rest ih =>
      intro e s since h hlast
      rw [lastStart?] at hlast
      cases hrest : (e.step event).2.lastStart? rest with
      | some last =>
          rw [hrest, Option.some.injEq] at hlast
          exact ih (orderly_step h event).atRest (hrest.trans (congrArg some hlast))
      | none =>
          rw [hrest] at hlast
          cases fate_step h event with
          | begins hstart _ _ _ hphase =>
              simp only [hstart, if_true, Option.some.injEq, Prod.mk.injEq] at hlast
              obtain ⟨rfl, rfl⟩ := hlast
              exact ⟨(orderly_step h event).atRest, hphase, hrest, rfl⟩
          | unmoved hstart => simp [hstart] at hlast
          | works hstart => simp [hstart] at hlast
          | panics hevent => simp [hevent, begins] at hlast
          | exits hevent => simp [hevent, begins] at hlast
          | joined hstart => simp [hstart] at hlast

/-! ### The lifecycle -/

/-- What a start does. -/
structure Startable (e : Executor) : Prop where
  refused : e.start = .error .alreadyRunning ↔ e.worker.isAlive = true
  /-- A start that is refused changes nothing. -/
  unchanged : e.worker.isAlive = true → e.step .start = ({}, e)
  /-- Any other leaves a live worker at an open queue. -/
  succeeds : e.worker.isAlive = false →
    e.start = .ok (e.step .start) ∧ (e.step .start).2.worker.isAlive = true ∧
      (e.step .start).2.queue.closed = false ∧ (e.step .start).2.phase = .running

/-- What terminating from outside does. -/
structure Terminable (e : Executor) (others : Nat) : Prop where
  dead : (e.step (.terminate others)).2.worker.isAlive = false
  /-- What is queued stays queued. -/
  untouched : (e.step (.terminate others)).2.queue.items = e.queue.items
  /-- Nothing is applied in the meantime, -/
  applied : (e.step (.terminate others)).1.applied = []
  /-- nor later, until a start succeeds. -/
  later : ∀ events, (e.step (.terminate others)).2.lastStart? events = none →
    ((e.step (.terminate others)).2.run events).1.applied = []

/-- What a call to terminate comes to, by the thread on which it is made. -/
structure HeedsCaller (e : Executor) : Prop where
  /-- On the worker's own thread, inside a notification, the queue is closed and that is all. -/
  inside : e.worker = .notifying →
    e.terminateOn e.thread = ({}, { e with queue := { e.queue with closed := true } })
  /-- On any other thread, be it that of an earlier worker, the call ends with the worker
  joined. -/
  outside : ∀ caller, caller ≠ e.thread → e.terminateOn caller = e.terminate ∧
    e.terminate.2.worker = .absent

/-- The phase tells what has happened since the `last` start that succeeded. -/
structure PhaseTells (phase : Phase) (last : Option (Executor × List Event)) : Prop where
  idle : phase = .idle ↔ last = none
  terminated : phase = .terminated ↔ ∃ s since, last = some (s, since) ∧ s.Stopped since
  running : phase = .running ↔ ∃ s since, last = some (s, since) ∧ ¬ s.Stopped since

theorem startable {e : Executor} (h : e.AtRest) : e.Startable where
  refused := by
    cases hlive : e.worker.isAlive with
    | true => simp [start_of_isAlive hlive]
    | false => simp [start_of_not_isAlive hlive]
  unchanged := fun hlive => by simp only [step, start_of_isAlive hlive]
  succeeds := fun hdead => by
    obtain ⟨next, hok, -, hnext⟩ := start_eq_ok h hdead
    have hstep : e.step .start = next := by simp only [step, hok]
    rw [hstep]
    exact ⟨hok, hnext⟩

theorem terminable {e : Executor} (h : e.AtRest) (others : Nat) : e.Terminable others := by
  have hstep : e.step (.terminate others) = e.terminate := terminateBy_succ h others
  have hdead : e.terminate.2.worker.isAlive = false := by rw [terminate_eq h]; rfl
  refine ⟨?_, ?_, ?_, ?_⟩
  · rw [hstep, hdead]
  · rw [hstep, terminate_eq h]
  · rw [hstep, terminate_eq h]
  · rw [hstep]
    intro events hnone
    exact applied_run_of_not_isAlive events (step_terminate h).atRest hdead hnone

theorem heedsCaller {e : Executor} (h : e.AtRest) : e.HeedsCaller where
  inside := terminateOn_thread h
  outside := fun caller hcaller => by
    rw [terminate_eq h, terminateOn_of_ne h hcaller]
    exact ⟨rfl, rfl⟩

theorem phaseTells (events : List Event) :
    PhaseTells (run {} events).2.phase (lastStart? {} events) := by
  cases hlast : lastStart? {} events with
  | none =>
      have hidle : (run {} events).2.phase = .idle :=
        (phase_run_eq_idle events atRest_default hlast).mpr rfl
      constructor <;> simp [hidle]
  | some last =>
      obtain ⟨s, since⟩ := last
      obtain ⟨hrest, hphase, hnone, hrun⟩ := lastStart?_eq_some events atRest_default hlast
      have hbegun : s.phase ≠ .idle := by rw [hphase]; simp
      have hidle := mt (phase_run_eq_idle since hrest hnone).mp hbegun
      have hterminated : (run {} events).2.phase = .terminated ↔ s.Stopped since := by
        rw [← hrun, phase_run_eq_terminated_iff since hrest hbegun hnone, hphase]
        simp
      rw [hrun] at hidle
      have hrunning : (run {} events).2.phase = .running ↔ ¬ s.Stopped since := by
        rw [← hterminated]
        cases hphase' : (run {} events).2.phase with
        | idle => exact absurd hphase' hidle
        | running | terminated => simp
      refine ⟨by simp [hidle], ?_, ?_⟩
      · rw [hterminated]
        exact ⟨fun h => ⟨s, since, rfl, h⟩, by rintro ⟨_, _, heq, h⟩; cases heq; exact h⟩
      · rw [hrunning]
        exact ⟨fun h => ⟨s, since, rfl, h⟩, by rintro ⟨_, _, heq, h⟩; cases heq; exact h⟩

/--
**Workers follow one another, and the phase tells what became of the last one.**

After any history one more worker has begun than has ended if one is alive, and
otherwise as many.  A start is refused, and changes nothing, exactly while a worker is
alive.  The phase is `idle` until a start succeeds; it is `terminated` if since the last
one that did the worker has exited or was terminated from outside, and `running` if not.
Terminating from outside leaves no worker alive and the queue as it was, and nothing
is applied from then on until a start succeeds.  Only on the worker's own thread does a
call not wait for the worker: it closes the queue, and the notification goes on.
-/
theorem lifecycle (events : List Event) :
    begun {} events = ended {} events + (run {} events).2.worker.isAlive.toNat ∧
      (run {} events).2.Startable ∧
      PhaseTells (run {} events).2.phase (lastStart? {} events) ∧
      (run {} events).2.HeedsCaller ∧
      ∀ others, (run {} events).2.Terminable others := by
  have hrest := atRest_run events
  have hbegun := begun_run events atRest_default
  refine ⟨?_, startable hrest, phaseTells events, heedsCaller hrest, terminable hrest⟩
  rw [← hbegun]
  exact (Nat.zero_add _).symm

/-- The receiver terminates the executor while there is work in the queue. -/
def stoppedInside : List Event :=
  [.start, .postAll [.fill Color.white, .reset], .closing, .returned]

/-- The receiver's call leaves the worker alive.  When the notification is over the worker is gone
and the phase says so, and the executor can be started again. -/
theorem lifecycle_stoppedInside :
    (run {} (stoppedInside.take 2)).2.worker = .notifying ∧
      (run {} (stoppedInside.take 2)).2.terminateOn (.worker 1)
        = ({}, (run {} (stoppedInside.take 3)).2) ∧
      ((run {} (stoppedInside.take 2)).2.terminateOn (.worker 0)).2.worker = .absent ∧
      (run {} stoppedInside).2.phase = .terminated ∧
      (run {} stoppedInside).2.worker.isAlive = false ∧
      ((run {} stoppedInside).2.step .start).2.worker.isAlive = true ∧
      lastStart? ((run {} stoppedInside).2.step (.terminate 0)).2 [.post .update] = none ∧
      (((run {} stoppedInside).2.step (.terminate 0)).2.run [.post .update]).1.applied = [] := by
  obtain ⟨-, hstart, hphase, -, hterminate⟩ := lifecycle stoppedInside
  obtain ⟨-, -, -, hcaller, -⟩ := lifecycle (stoppedInside.take 2)
  have hnotifying : (run {} (stoppedInside.take 2)).2.worker = .notifying := by decide
  obtain ⟨hother, habsent⟩ := hcaller.outside (.worker 0) (by decide)
  have hdead : (run {} stoppedInside).2.worker.isAlive = false := by decide
  obtain ⟨-, hlive, -, -⟩ := hstart.succeeds hdead
  have hstopped : (({} : Executor).step .start).2.Stopped
      [.postAll [.fill Color.white, .reset], .closing, .returned] :=
    .inr ⟨_, List.prefix_refl _, by decide⟩
  have hnone : lastStart? ((run {} stoppedInside).2.step (.terminate 0)).2 [.post .update]
      = none := rfl
  exact ⟨hnotifying, hcaller.inside hnotifying, by rw [hother, habsent],
    hphase.terminated.mpr ⟨_, _, rfl, hstopped⟩, hdead, hlive, hnone,
    (hterminate 0).later _ hnone⟩

end Executor

end DrawingBoard

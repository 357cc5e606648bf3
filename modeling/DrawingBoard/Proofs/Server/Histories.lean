/-
What a server does over a whole history.

Requests come in, notifications return, and the worker is started and terminated, in
any order.  Whatever the history, the reader is where it would be if it had read the
scripts alone, and no operation that it hands on is lost: those that were handed on are
those that the board shows followed by those in the queue (`Keeps`).  Each event keeps
this, as it comes to at most one step of the executor.

So once the worker is at the empty queue the board shows everything that was asked for
(`answers_and_shows`).  Letting the worker rest leads there, and is itself a history
(`rest_eq_run`, `quiescent_rest`).
-/
import DrawingBoard.Proofs.Execution.Resting
import DrawingBoard.Proofs.Server.Frames
import DrawingBoard.Proofs.Server.Scripts

namespace DrawingBoard

namespace Server

/-! ### Histories -/

/-- What can happen to a server. -/
inductive Event where
  | request (r : Web.Request)
  /-- The notification in progress returns. -/
  | returned
  | start
  | terminate

/-- The script that comes with an event. -/
def Event.script? : Event → Option String
  | .request r => r.script?
  | _ => none

/-- The server after an event.  The worker goes on by itself only as far as the next
notification; to start it while it is alive is an error that changes nothing. -/
def step (s : Server) : Event → Server
  | .request r => (Web.answer s r).2
  | .returned => s.release
  | .start =>
    match s.executor.start with
    | .ok step => s.follow step
    | .error _ => s
  | .terminate => s.follow s.executor.terminate

/-- The server after a history. -/
def run (s : Server) (events : List Event) : Server := events.foldl step s

/-- The scripts of a history. -/
def scripts (events : List Event) : List String := events.filterMap Event.script?

/-- The operations that the scripts of a history hand on. -/
def posted (s : Server) (events : List Event) : List Operation :=
  Batcher.released (s.batcher.readAll (scripts events)).1

/-- The worker runs, and is not inside a notification. -/
structure Quiescent (s : Server) : Prop where
  running : s.executor.phase = .running
  free : s.executor.worker ≠ .notifying

/-! ### What every event keeps -/

/-- No operation of `asked` is lost: those that are not in the queue are shown. -/
structure Accounts (s₀ s : Server) (asked : List Operation) : Prop where
  conserves : ∃ done, asked = done ++ s.executor.queue.items ∧ Shows s₀ s done
  atRest : s.executor.AtRest
  calm : s.executor.worker ≠ .panicked

/-- The server is one that began as `s₀` and was given the scripts. -/
structure Keeps (s₀ s : Server) (scripts : List String) : Prop where
  batcher : s.batcher = (s₀.batcher.readAll scripts).2
  accounts : Accounts s₀ s (Batcher.released (s₀.batcher.readAll scripts).1)

section

variable {s₀ s : Server} (hnumbered : s₀.scene.Numbered)
  (haccepts : Canvas.Accepts s₀.budget s₀.frameSize)

include hnumbered haccepts

/-- Following a step of the executor loses nothing of what was asked for or is newly posted. -/
theorem Accounts.follow {asked new : List Operation} {step : Progress × Executor}
    (h : Accounts s₀ s asked) (hstep : s.executor.Step new step) :
    Accounts s₀ (s.follow step) (asked ++ new) := by
  obtain ⟨done, hasked, hshows⟩ := h.conserves
  have hexecutor := s.executor_follow step
  refine ⟨⟨done ++ step.1.applied, ?_, hshows.follow hnumbered haccepts step⟩, ?_, ?_⟩
  · rw [hexecutor, hasked, List.append_assoc, hstep.conserves, List.append_assoc]
  · rw [hexecutor]
    exact hstep.atRest
  · rw [hexecutor]
    exact hstep.calm h.calm

theorem Accounts.follow_nothing {asked : List Operation} {step : Progress × Executor}
    (h : Accounts s₀ s asked) (hstep : s.executor.Step [] step) :
    Accounts s₀ (s.follow step) asked := by
  have := h.follow hnumbered haccepts hstep
  rwa [List.append_nil] at this

/-- Following a step by which nothing is posted. -/
theorem Keeps.follow {scripts : List String} {step : Progress × Executor}
    (h : Keeps s₀ s scripts) (hstep : s.executor.Step [] step) :
    Keeps s₀ (s.follow step) scripts :=
  ⟨(s.batcher_follow step).trans h.batcher,
    h.accounts.follow_nothing hnumbered haccepts hstep⟩

/-- A script that is read posts what it hands on. -/
theorem Keeps.accept {scripts : List String} (h : Keeps s₀ s scripts) (script : String) :
    Keeps s₀ (s.accept script).2 (scripts ++ [script]) := by
  have hall := Batcher.readAll_concat script scripts s₀.batcher
  rw [← h.batcher] at hall
  have hkept : ∀ b : Batcher, Accounts s₀ { s with batcher := b }
      (Batcher.released (s₀.batcher.readAll scripts).1) := by
    intro b
    obtain ⟨done, hasked, hshows⟩ := h.accounts.conserves
    exact ⟨⟨done, hasked, hshows.budget, hshows.frameSize, hshows.numbered, hshows.scene,
      hshows.latest⟩, h.accounts.atRest, h.accounts.calm⟩
  cases hread : s.batcher.read script with
  | mk answer b =>
      rw [hread] at hall
      cases answer with
      | error e =>
          rw [accept_of_error hread]
          refine ⟨by rw [hall], ?_⟩
          rw [hall, Batcher.released_append]
          exact (List.append_nil _).symm ▸ hkept b
      | ok ops =>
          rw [accept_of_ok hread]
          refine ⟨by rw [hall, batcher_follow], ?_⟩
          rw [hall, Batcher.released_append]
          have hops : Batcher.released [.ok ops] = ops := List.append_nil ops
          rw [hops]
          exact (hkept b).follow hnumbered haccepts (Executor.step_postAll h.accounts.atRest ops)

theorem Keeps.step {scripts : List String} (h : Keeps s₀ s scripts) (event : Event) :
    Keeps s₀ (s.step event) (scripts ++ event.script?.toList) := by
  have hrest := h.accounts.atRest
  cases event with
  | request r =>
      show Keeps s₀ (Web.answer s r).2 (scripts ++ r.script?.toList)
      cases hscript : r.script? with
      | none =>
          rw [Web.answer_of_no_script s hscript]
          exact (List.append_nil scripts).symm ▸ h
      | some script =>
          rw [Web.server_answer_of_script s hscript]
          exact h.accept hnumbered haccepts script
  | returned =>
      show Keeps s₀ s.release (scripts ++ [])
      rw [List.append_nil, release]
      cases hrelease : s.executor.release? with
      | none => exact h
      | some step => exact h.follow hnumbered haccepts (Executor.step_release hrest hrelease)
  | start =>
      show Keeps s₀ (s.step .start) (scripts ++ [])
      rw [List.append_nil, Server.step]
      cases hstart : s.executor.start with
      | error e => exact h
      | ok step => exact h.follow hnumbered haccepts (Executor.step_start hrest hstart)
  | terminate =>
      show Keeps s₀ (s.follow s.executor.terminate) (scripts ++ [])
      rw [List.append_nil]
      exact h.follow hnumbered haccepts (Executor.step_terminate hrest)

theorem Keeps.run (events : List Event) :
    ∀ {s : Server} {scripts : List String}, Keeps s₀ s scripts →
      Keeps s₀ (s.run events) (scripts ++ Server.scripts events) := by
  induction events with
  | nil => intro s scripts h; exact (List.append_nil scripts).symm ▸ h
  | cons event rest ih =>
      intro s scripts h
      have hscripts : Server.scripts (event :: rest)
          = event.script?.toList ++ Server.scripts rest := by
        cases hscript : event.script? <;> simp [Server.scripts, hscript]
      rw [hscripts, ← List.append_assoc]
      exact ih (h.step hnumbered haccepts event)

end

/-- **No history loses an operation or moves the reader.** -/
theorem keeps_run {s₀ : Server} (hfresh : s₀.executor = {}) (hscene : s₀.scene.Reachable)
    (haccepts : Canvas.Accepts s₀.budget s₀.frameSize) (events : List Event) :
    Keeps s₀ (s₀.run events) (scripts events) := by
  have hstart : Keeps s₀ s₀ [] := by
    refine ⟨rfl, ⟨⟨[], ?_, .refl hscene.numbered⟩, ?_, ?_⟩⟩
    · rw [hfresh]
      rfl
    · rw [hfresh]
      exact Executor.atRest_default
    · rw [hfresh]
      simp
  exact hstart.run hscene.numbered haccepts events

/-- At rest outside a notification, a running worker has nothing left to do. -/
theorem items_of_quiescent {s₀ s : Server} {asked : List Operation} (h : Accounts s₀ s asked)
    (hquiet : s.Quiescent) : s.executor.queue.items = [] := by
  apply h.atRest.starved
  rcases h.atRest.running.mp hquiet.running with hlive | hpanicked
  · cases hworker : s.executor.worker with
    | waiting => rfl
    | notifying => exact absurd hworker hquiet.free
    | absent | exited | panicked => rw [hworker] at hlive; simp [Worker.isAlive] at hlive
  · exact absurd hpanicked h.calm

/--
**A server answers each script as its reader does, and shows all that was asked for.**

It begins with a worker that was never started, any scene, and frames of a size that
can be had.  After any history a script is answered with 200 or 400 as the reader takes
or refuses it, from what the scripts before it left to wait.  Whenever the worker runs
and is outside a notification, nothing is left to do; and if anything was posted at all,
the latest frame is the one snapshot of the first scene after all operations that were
posted, in the order of the requests.
-/
theorem answers_and_shows {s₀ : Server} (hfresh : s₀.executor = {})
    (hscene : s₀.scene.Reachable) (haccepts : Canvas.Accepts s₀.budget s₀.frameSize)
    (events : List Event) :
    (s₀.run events).batcher = (s₀.batcher.readAll (scripts events)).2 ∧
      (∀ (r : Web.Request) (script : String), r.script? = some script →
        (Web.answer (s₀.run events) r).1.status.code
          = if ((s₀.run events).batcher.read script).1.isOk then 200 else 400) ∧
      ((s₀.run events).Quiescent →
        (s₀.run events).executor.pending = 0 ∧
          (s₀.posted events ≠ [] →
            ∃ frame after, (s₀.scene.applyAll (s₀.posted events)).snapshot
                (Canvas.screen s₀.budget) s₀.frameSize = (.ok frame, after) ∧
              (s₀.run events).latest = some frame)) := by
  have hkeeps := keeps_run hfresh hscene haccepts events
  refine ⟨hkeeps.batcher, fun r script hscript => ?_, fun hquiet => ?_⟩
  · rw [Web.status_answer_of_script _ hscript]
    cases ((s₀.run events).batcher.read script).1 with
    | ok ops => rfl
    | error e => rfl
  · obtain ⟨done, hasked, hshows⟩ := hkeeps.accounts.conserves
    have hitems := items_of_quiescent hkeeps.accounts hquiet
    rw [hitems, List.append_nil] at hasked
    refine ⟨by rw [Executor.pending, Queue.size, hitems, List.length_nil], fun hne => ?_⟩
    have hposted : s₀.posted events = done := hasked
    refine ⟨_, _, Scene.snapshot_screen _ haccepts, ?_⟩
    rw [hposted] at hne ⊢
    exact hshows.latest hne

/-- A worker that is terminated with work in the queue, and started again. -/
def restarted : List Event :=
  [.request { method := "POST", target := "/", body := Utf8.encode "figure 0.25 0.5 & update" },
    .start,
    .request { method := "GET", target := "/?cmd=white+%26+update+%26+move+0.5+0" },
    .request { method := "GET", target := "/?cmd=paint" },
    .terminate,
    .request { method := "POST", target := "/", body := Utf8.encode "update" },
    .start, .returned, .returned]

/-- What was queued before the worker was terminated is on the frame in the end. -/
theorem answers_and_shows_restarted :
    (new ⟨8, 8⟩ 64 false).executor = {} ∧ (new ⟨8, 8⟩ 64 false).scene.Reachable ∧
      Canvas.Accepts 64 ⟨8, 8⟩ ∧ ((new ⟨8, 8⟩ 64 false).run restarted).Quiescent ∧
      (Web.answer ((new ⟨8, 8⟩ 64 false).run restarted)
        { method := "GET", target := "/?cmd=paint" }).1.status.code = 400 ∧
      ∃ frame after,
        (((new ⟨8, 8⟩ 64 false).scene.applyAll
          [.figure { center := ⟨0.25, 0.5⟩ }, .fill Color.white, .move ⟨0.5, 0⟩]).snapshot
            (Canvas.screen 64) ⟨8, 8⟩ = (.ok frame, after)) ∧
          ((new ⟨8, 8⟩ 64 false).run restarted).latest = some frame := by
  have hfresh : (new ⟨8, 8⟩ 64 false).executor = {} := rfl
  have hreach : (new ⟨8, 8⟩ 64 false).scene.Reachable := Scene.Reachable.empty.applyAll _
  have haccepts : Canvas.Accepts 64 ⟨8, 8⟩ := by constructor <;> decide
  have hquiet : ((new ⟨8, 8⟩ 64 false).run restarted).Quiescent := by
    constructor <;> decide +kernel
  have hposted : (new ⟨8, 8⟩ 64 false).posted restarted
      = [.figure { center := ⟨0.25, 0.5⟩ }, .fill Color.white, .move ⟨0.5, 0⟩] := by
    decide +kernel
  obtain ⟨-, hstatus, hshows⟩ := answers_and_shows hfresh hreach haccepts restarted
  refine ⟨hfresh, hreach, haccepts, hquiet, ?_, ?_⟩
  · rw [hstatus { method := "GET", target := "/?cmd=paint" } "paint" (by decide +kernel)]
    decide +kernel
  · obtain ⟨-, hframe⟩ := hshows hquiet
    rw [hposted] at hframe
    exact hframe (by simp)

/-! ### Coming to rest -/

theorem follow_append (s : Server) (first later : Progress) (e e' : Executor) :
    s.follow (first ++ later, e') = (s.follow (first, e)).follow (later, e') := by
  have hfirst : { s.follow (first, e) with executor := e' }
      = first.applied.foldl perform { s with executor := e' } := by
    rw [follow_eq]
    exact (foldl_perform_executor e' first.applied s).symm
  show (first.applied ++ later.applied).foldl perform { s with executor := e' }
    = later.applied.foldl perform { s.follow (first, e) with executor := e' }
  rw [hfirst, List.foldl_append]

theorem follow_releaseUpTo (n : Nat) :
    ∀ s : Server, s.follow (Executor.releaseUpTo n s.executor)
      = s.run (List.replicate n .returned) := by
  induction n with
  | zero => intro s; rfl
  | succ n ih =>
      intro s
      show _ = s.release.run (List.replicate n .returned)
      rw [Executor.releaseUpTo, release]
      cases hrelease : s.executor.release? with
      | none =>
          have hfree := Executor.release?_eq_none_iff.mp hrelease
          show s.follow ({}, s.executor) = s.run _
          rw [← ih s, Executor.releaseUpTo_of_free hfree]
      | some step =>
          have hrest := ih (s.follow step)
          rw [executor_follow] at hrest
          exact (follow_append s _ _ step.2 _).trans hrest

/-- Letting the worker rest is a history in which notifications return. -/
theorem rest_eq_run (s : Server) :
    s.rest = s.run (List.replicate (s.executor.pending + 1) .returned) := follow_releaseUpTo ..

/-- **A worker that still runs when it rests is quiescent.** -/
theorem quiescent_rest {s : Server} (h : s.rest.executor.phase = .running) : s.rest.Quiescent := by
  refine ⟨h, ?_⟩
  rw [rest, executor_follow]
  exact s.executor.drain_free

end Server

end DrawingBoard

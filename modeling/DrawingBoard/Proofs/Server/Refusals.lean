/-
Requests that are refused.

A request that is not answered with success leaves the server as it is, all of it: what
waits in the pool, what is queued, the board and the latest frame (`answer_of_refused`).
That holds for a script with a fault anywhere in it, since no operation is handed on
before the whole script is understood.  So the requests that were refused can be left out
of a history, and no answer and no state after any other event changes.
-/
import DrawingBoard.Proofs.Script.Refusal
import DrawingBoard.Proofs.Server.Histories

namespace DrawingBoard

namespace Server

/-- What is answered to an event, if it is a request, and the server afterwards. -/
def respond (s : Server) (event : Event) : Option Web.Response × Server :=
  match event with
  | .request r => (some (Web.answer s r).1, s.step event)
  | _ => (none, s.step event)

/-- Is the request refused that was answered like this? -/
def refuses : Option Web.Response → Bool
  | some response => response.status != .ok
  | none => false

/-- A request that is refused changes nothing. -/
theorem answer_of_refused {s : Server} {r : Web.Request}
    (h : (Web.answer s r).1.status ≠ .ok) : (Web.answer s r).2 = s := by
  cases hscript : r.script? with
  | none => exact Web.answer_of_no_script s hscript
  | some script =>
      rw [Web.status_answer_of_script s hscript] at h
      rw [Web.server_answer_of_script s hscript]
      cases hanswer : (s.batcher.read script).1 with
      | ok ops => rw [hanswer] at h; exact absurd rfl h
      | error e =>
          have hread : s.batcher.read script = (.error e, s.batcher) :=
            Prod.ext hanswer (Batcher.read_of_error hanswer)
          rw [accept_of_error hread]

theorem stateAfter_respond (events : List Event) : ∀ s : Server,
    stateAfter respond s events = s.run events := by
  induction events with
  | nil => intro s; rfl
  | cons event rest ih =>
      intro s
      have hstep : (s.respond event).2 = s.step event := by cases event <;> rfl
      show stateAfter respond (s.respond event).2 rest = (s.step event).run rest
      rw [ih, hstep]

/-- **Refused requests can be left out of a history.** -/
theorem transcript_respond_accepted (s : Server) (events : List Event) :
    transcript respond s (accepted refuses respond s events)
        = unrefused refuses (transcript respond s events) ∧
      s.run (accepted refuses respond s events) = s.run events := by
  rw [← stateAfter_respond, ← stateAfter_respond]
  refine transcript_accepted (fun s event hrefused => ?_) events s
  cases event with
  | request r => exact answer_of_refused (by simpa [respond, refuses] using hrefused)
  | returned | start | terminate => simp [respond, refuses] at hrefused

/-- A script with a fault in it is refused. -/
theorem status_answer_of_fault (s : Server) {r : Web.Request} {script : String}
    (hscript : r.script? = some script)
    (hfault : ∃ c ∈ Command.ofScript script, ∃ e, c.operation = .error e) :
    (Web.answer s r).1.status = .badRequest := by
  obtain ⟨e, he⟩ := Operation.exists_error_iff.mpr hfault
  rw [Web.status_answer_of_script s hscript, Batcher.answer_eq_error_iff.mpr he]
  rfl

/--
**What is refused leaves no trace.**

A reader refuses a script exactly if one of its commands is at fault, at whatever place.
The error does not depend on what was waiting, and what was waiting stays.  If the
refused scripts are taken out of a sequence, the others hand on the same and leave the
same to wait, each of them.  A server refuses a request that carries such a script,
whatever state it is in; no request that it refuses changes it; and if the refused ones
are taken out of a history, all other events are answered the same and leave the same
server, each of them.
-/
theorem refused_without_trace (b : Batcher) (scripts : List String) (s : Server)
    (events : List Event) :
    (∀ script, (∃ e, (b.read script).1 = .error e) ↔
      ∃ c ∈ Command.ofScript script, ∃ e, c.operation = .error e) ∧
    (∀ script e, (b.read script).1 = .error e →
      (b.read script).2 = b ∧ ∀ b' : Batcher, (b'.read script).1 = .error e) ∧
    (transcript Batcher.read b (accepted Batcher.refuses Batcher.read b scripts)
        = unrefused Batcher.refuses (transcript Batcher.read b scripts) ∧
      stateAfter Batcher.read b (accepted Batcher.refuses Batcher.read b scripts)
        = stateAfter Batcher.read b scripts) ∧
    (∀ r script, r.script? = some script →
      (∃ c ∈ Command.ofScript script, ∃ e, c.operation = .error e) →
        (Web.answer s r).1.status = .badRequest) ∧
    (∀ r, (Web.answer s r).1.status ≠ .ok → (Web.answer s r).2 = s) ∧
    transcript respond s (accepted refuses respond s events)
      = unrefused refuses (transcript respond s events) ∧
    s.run (accepted refuses respond s events) = s.run events := by
  refine ⟨fun script => ?_, fun script e herror => ?_, b.transcript_read_accepted scripts,
    fun r script hscript hfault => s.status_answer_of_fault hscript hfault,
    fun r => answer_of_refused, s.transcript_respond_accepted events⟩
  · simp only [Batcher.answer_eq_error_iff, Operation.exists_error_iff]
  · exact ⟨Batcher.read_of_error herror,
      fun b' => Batcher.answer_eq_error_iff.mpr (Batcher.answer_eq_error_iff.mp herror)⟩

/-- An update and a reset, and then a command that lacks an argument. -/
def halfRead : String := "white & update\nreset & figure 1"

/-- What came before the fault is not handed on, and what was waiting stays. -/
theorem refused_without_trace_halfRead :
    Batcher.read { pool := [.fill Color.grass] } halfRead
        = (.error ⟨2, "figure", .argumentCount 2 1⟩, { pool := [.fill Color.grass] }) ∧
      (Batcher.read {} halfRead).1 = .error ⟨2, "figure", .argumentCount 2 1⟩ ∧
      transcript Batcher.read {} ["green", "update"]
        = unrefused Batcher.refuses (transcript Batcher.read {} ["green", halfRead, "update"]) ∧
      (Web.answer (new ⟨8, 8⟩ 64 false)
        { method := "POST", target := "/", body := Utf8.encode halfRead }).1.status
          = .badRequest ∧
      (Web.answer (new ⟨8, 8⟩ 64 false)
        { method := "POST", target := "/", body := Utf8.encode halfRead }).2
          = new ⟨8, 8⟩ 64 false := by
  have herror : (Batcher.read { pool := [.fill Color.grass] } halfRead).1
      = .error ⟨2, "figure", .argumentCount 2 1⟩ := by decide +kernel
  have haccepted : accepted Batcher.refuses Batcher.read {} ["green", halfRead, "update"]
      = ["green", "update"] := by decide +kernel
  have hscript : Web.Request.script?
      { method := "POST", target := "/", body := Utf8.encode halfRead } = some halfRead := by
    decide +kernel
  have hfault : ∃ c ∈ Command.ofScript halfRead, ∃ e, c.operation = .error e :=
    ⟨⟨"figure", ["1"], 2⟩, by decide +kernel, _, rfl⟩
  obtain ⟨-, hrefused, -, hstatus, hunchanged, -⟩ :=
    refused_without_trace { pool := [.fill Color.grass] } [] (new ⟨8, 8⟩ 64 false) []
  obtain ⟨-, -, ⟨herased, -⟩, -⟩ :=
    refused_without_trace {} ["green", halfRead, "update"] (new ⟨8, 8⟩ 64 false) []
  obtain ⟨hpool, hany⟩ := hrefused halfRead _ herror
  have hbad := hstatus _ halfRead hscript hfault
  rw [haccepted] at herased
  exact ⟨Prod.ext herror hpool, hany {}, herased, hbad, hunchanged _ (by rw [hbad]; simp)⟩

end Server

end DrawingBoard

/-
Requests that carry a script.

A script comes as the body of a POST, or in the query of a GET or a HEAD, to the root.
Whether such a request succeeds is decided by the reader alone, in the state in which
its pool is, and never by what the worker is doing (`status_answer_of_script`).
Requests without a script change nothing.
-/
import DrawingBoard.Proofs.Script.Batching
import DrawingBoard.Server.Web

namespace DrawingBoard

namespace Server

theorem accept_of_error {s : Server} {script : String} {e : ScriptError} {b : Batcher}
    (h : s.batcher.read script = (.error e, b)) :
    s.accept script = (.error e, { s with batcher := b }) := by
  simp only [accept, h]

theorem accept_of_ok {s : Server} {script : String} {ops : List Operation} {b : Batcher}
    (h : s.batcher.read script = (.ok ops, b)) :
    s.accept script
      = (.ok ops.length, follow { s with batcher := b } (s.executor.postAll ops)) := by
  simp only [accept, h]

end Server

namespace Web

/-- The script that a request carries, if it carries one. -/
def Request.script? (r : Request) : Option String :=
  match Place.ofTarget? r.target with
  | some (.root, query) =>
    if r.method = "GET" ∨ r.method = "HEAD" then scriptOfQuery? query
    else if r.method = "POST" then Utf8.decode? r.body
    else none
  | _ => none

/-- How a request goes whose script is read with this answer. -/
def statusOf : Except ScriptError (List Operation) → Status
  | .ok _ => .ok
  | .error _ => .badRequest

theorem submit_some (s : Server) (script : String) :
    (submit s (some script)).1.status = statusOf (s.batcher.read script).1 ∧
      (submit s (some script)).2 = (s.accept script).2 := by
  cases hread : s.batcher.read script with
  | mk answer b =>
      cases answer with
      | error e =>
          simp only [submit, Server.accept_of_error hread]
          exact ⟨rfl, trivial⟩
      | ok ops =>
          simp only [submit, Server.accept_of_ok hread]
          exact ⟨rfl, trivial⟩

/-- How a submission goes, and the server after it. -/
def outcome (s : Server) (script? : Option String) : Status × Server :=
  ((submit s script?).1.status, (submit s script?).2)

/-- What becomes of a request to the root, by its method. -/
theorem answer_root (s : Server) {method target query : String} {body : List UInt8}
    (h : Place.ofTarget? target = some (.root, query)) :
    ((answer s ⟨method, target, body⟩).1.status, (answer s ⟨method, target, body⟩).2) =
      if method = "GET" ∨ method = "HEAD" then outcome s (scriptOfQuery? query)
      else if method = "POST" then outcome s (Utf8.decode? body)
      else (.methodNotAllowed, s) := by
  unfold answer
  simp only [h]
  split
  · rfl
  · rfl
  · rfl
  · rename_i hget hhead hpost
    rw [if_neg fun hc => hc.elim hget hhead, if_neg fun hc => hpost hc rfl]

/-- What is asked of another place than the root changes nothing. -/
theorem answer_elsewhere (s : Server) {r : Request}
    (h : ∀ query, Place.ofTarget? r.target ≠ some (.root, query)) : (answer s r).2 = s := by
  unfold answer
  split
  · rfl
  · rename_i place query hplace
    cases place with
    | root => exact absurd hplace (h query)
    | frame =>
        split
        · rfl
        · rfl
        · contradiction
        · rfl

/-- A request submits its script, or else it has none and changes nothing. -/
theorem answer_eq (s : Server) (r : Request) :
    ((answer s r).1.status, (answer s r).2) = outcome s r.script? ∨
      r.script? = none ∧ (answer s r).2 = s := by
  obtain ⟨method, target, body⟩ := r
  unfold Request.script?
  split
  · rename_i query hplace
    rw [answer_root s hplace]
    by_cases hquery : method = "GET" ∨ method = "HEAD"
    · left
      rw [if_pos hquery, if_pos hquery]
    · by_cases hpost : method = "POST"
      · left
        rw [if_neg hquery, if_neg hquery, if_pos hpost, if_pos hpost]
      · right
        refine ⟨?_, (congrArg Prod.snd (answer_root s hplace)).trans ?_⟩
        · rw [if_neg hquery, if_neg hpost]
        · rw [if_neg hquery, if_neg hpost]
  · rename_i hroot
    exact .inr ⟨rfl, answer_elsewhere s hroot⟩

/-- A request that carries a script submits it. -/
theorem answer_of_script (s : Server) {r : Request} {script : String}
    (h : r.script? = some script) :
    ((answer s r).1.status, (answer s r).2) = outcome s (some script) := by
  rcases answer_eq s r with hanswer | ⟨hnone, -⟩
  · rw [hanswer, h]
  · rw [h] at hnone
    simp at hnone

/-- A request without a script changes nothing. -/
theorem answer_of_no_script (s : Server) {r : Request} (h : r.script? = none) :
    (answer s r).2 = s := by
  rcases answer_eq s r with hanswer | ⟨-, hsame⟩
  · rw [h] at hanswer
    exact congrArg Prod.snd hanswer
  · exact hsame

/-- **A script is accepted or refused as it is read, whatever the worker is doing.** -/
theorem status_answer_of_script (s : Server) {r : Request} {script : String}
    (h : r.script? = some script) :
    (answer s r).1.status = statusOf (s.batcher.read script).1 :=
  (congrArg Prod.fst (answer_of_script s h)).trans (submit_some s script).1

/-- A script is accepted or refused with the state that `accept` leaves. -/
theorem server_answer_of_script (s : Server) {r : Request} {script : String}
    (h : r.script? = some script) : (answer s r).2 = (s.accept script).2 :=
  (congrArg Prod.snd (answer_of_script s h)).trans (submit_some s script).2

end Web

end DrawingBoard

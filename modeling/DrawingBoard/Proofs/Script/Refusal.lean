/-
Scripts that are refused.

A script is refused if one of its commands is at fault, wherever the command stands
(`exists_error_iff`), and the fault is found by looking at the commands alone: what waits
in the pool is not looked at before all of them are understood.  So whether a script is
refused, and with which error, is the same for every pool (`answer_eq_error_iff`), and
a refusal leaves the pool as it was.
-/
import DrawingBoard.Proofs.Script.Meaning
import DrawingBoard.Proofs.Transcript
import DrawingBoard.Script.Batcher

namespace DrawingBoard

/-- A script cannot be read exactly if one of its commands cannot. -/
theorem Operation.exists_error_iff {script : String} :
    (∃ e, Operation.ofScript script = .error e) ↔
      ∃ c ∈ Command.ofScript script, ∃ e, c.operation = .error e := by
  constructor
  · rintro ⟨e, he⟩
    obtain ⟨before, c, after, hcommands, -, hc⟩ := exists_of_mapM_eq_error he
    exact ⟨c, hcommands ▸ List.mem_append_right _ List.mem_cons_self, e, hc⟩
  · rintro ⟨c, hc, e, he⟩
    cases hread : Operation.ofScript script with
    | error e' => exact ⟨e', rfl⟩
    | ok ops =>
        have hmeans := List.forall₂_iff_get.mp (Operation.ofScript_eq_ok_iff.mp hread)
        obtain ⟨i, hi, rfl⟩ := List.getElem_of_mem hc
        have hop := Command.operation_eq_ok_iff.mpr (hmeans.2 i hi (hmeans.1 ▸ hi))
        simp only [List.get_eq_getElem, he] at hop
        simp at hop

namespace Batcher

theorem answer_eq_error_iff {b : Batcher} {script : String} {e : ScriptError} :
    (b.read script).1 = .error e ↔ Operation.ofScript script = .error e := by
  unfold read
  cases Operation.ofScript script <;> simp

/-- A script that is refused changes nothing. -/
theorem read_of_error {b : Batcher} {script : String} {e : ScriptError}
    (h : (b.read script).1 = .error e) : (b.read script).2 = b := by
  unfold read
  rw [answer_eq_error_iff.mp h]

/-- Is the script refused that was answered like this? -/
def refuses : Except ScriptError (List Operation) → Bool
  | .ok _ => false
  | .error _ => true

/-- **Refused scripts can be left out.** -/
theorem transcript_read_accepted (b : Batcher) (scripts : List String) :
    transcript read b (accepted refuses read b scripts)
        = unrefused refuses (transcript read b scripts) ∧
      stateAfter read b (accepted refuses read b scripts) = stateAfter read b scripts := by
  refine transcript_accepted (fun b script hrefused => ?_) scripts b
  cases hanswer : (b.read script).1 with
  | ok ops => rw [hanswer] at hrefused; simp [refuses] at hrefused
  | error e => exact read_of_error hanswer

end Batcher

end DrawingBoard

/-
Inputs one after the other.

A reader takes scripts, a server requests, a queue pulls: each is a step that answers an
input and goes on in another state.  The transcript of a history has one entry for each
input, with the answer and the state after it.  What is known of single steps carries
over to it in three ways.  A property that each step keeps holds in the end, and it may
speak of all that has happened so far (`transcript_keeps`).  Two states that answer alike
and stay related have transcripts that agree entry by entry (`transcript_simulates`).
And if a refusal changes nothing, the refused inputs can be taken out of a history and
the rest of the transcript stays as it is (`transcript_accepted`).
-/
import Mathlib.Data.List.Forall2

namespace DrawingBoard

/-- One input, with what came of it. -/
structure Entry (σ α β : Type) where
  input : α
  answer : β
  after : σ

section

variable {σ τ α β : Type}

/-- What a step makes of inputs, one after the other. -/
def transcript (step : σ → α → β × σ) (s : σ) : List α → List (Entry σ α β)
  | [] => []
  | a :: rest => ⟨a, (step s a).1, (step s a).2⟩ :: transcript step (step s a).2 rest

/-- The state after the inputs. -/
def stateAfter (step : σ → α → β × σ) (s : σ) (inputs : List α) : σ :=
  inputs.foldl (fun s a => (step s a).2) s

variable {step : σ → α → β × σ} {s : σ}

theorem stateAfter_cons (a : α) (rest : List α) :
    stateAfter step s (a :: rest) = stateAfter step (step s a).2 rest := rfl

theorem stateAfter_append (inputs more : List α) :
    stateAfter step s (inputs ++ more) = stateAfter step (stateAfter step s inputs) more :=
  List.foldl_append

theorem map_input_transcript (inputs : List α) :
    ∀ s : σ, (transcript step s inputs).map (·.input) = inputs := by
  induction inputs with
  | nil => intro s; rfl
  | cons a rest ih => intro s; exact congrArg (a :: ·) (ih _)

/-- **What each step keeps holds in the end**, also of all that has happened. -/
theorem transcript_keeps {I : List (Entry σ α β) → σ → Prop}
    (hstep : ∀ past s a, I past s → I (past ++ [⟨a, (step s a).1, (step s a).2⟩]) (step s a).2)
    (inputs : List α) (hstart : I [] s) :
    I (transcript step s inputs) (stateAfter step s inputs) := by
  have hrun : ∀ (inputs : List α) (past : List (Entry σ α β)) (s : σ), I past s →
      I (past ++ transcript step s inputs) (stateAfter step s inputs) := by
    intro inputs
    induction inputs with
    | nil => intro past s h; rwa [transcript, List.append_nil]
    | cons a rest ih =>
        intro past s h
        rw [transcript, List.append_cons]
        exact ih _ _ (hstep past s a h)
  exact hrun inputs [] s hstart

/-- **States that answer alike and stay related have transcripts that agree.** -/
theorem transcript_simulates {step' : τ → α → β × τ} {R : σ → τ → Prop}
    (hstep : ∀ s t a, R s t → (step s a).1 = (step' t a).1 ∧ R (step s a).2 (step' t a).2)
    (inputs : List α) :
    ∀ {s : σ} {t : τ}, R s t →
      List.Forall₂ (fun entry entry' => entry.answer = entry'.answer ∧ R entry.after entry'.after)
        (transcript step s inputs) (transcript step' t inputs) := by
  induction inputs with
  | nil => intro s t _; exact .nil
  | cons a rest ih =>
      intro s t h
      exact .cons (hstep s t a h) (ih (hstep s t a h).2)

/-! ### Refusals -/

/-- The entries that are not refusals. -/
def unrefused (refuses : β → Bool) (entries : List (Entry σ α β)) : List (Entry σ α β) :=
  entries.filter fun entry => !refuses entry.answer

/-- The inputs that are not refused. -/
def accepted (refuses : β → Bool) (step : σ → α → β × σ) (s : σ) (inputs : List α) : List α :=
  (unrefused refuses (transcript step s inputs)).map (·.input)

variable {refuses : β → Bool}

/-- **Inputs that are refused can be taken out**, if a refusal changes nothing: the others are
answered as before, with the same state after each, and the last state is the same. -/
theorem transcript_accepted (hrefuse : ∀ s a, refuses (step s a).1 = true → (step s a).2 = s)
    (inputs : List α) :
    ∀ s : σ,
      transcript step s (accepted refuses step s inputs)
          = unrefused refuses (transcript step s inputs) ∧
        stateAfter step s (accepted refuses step s inputs) = stateAfter step s inputs := by
  induction inputs with
  | nil => intro s; exact ⟨rfl, rfl⟩
  | cons a rest ih =>
      intro s
      obtain ⟨hentries, hstate⟩ := ih (step s a).2
      cases hanswer : refuses (step s a).1 with
      | true =>
          have hdrop : unrefused refuses (transcript step s (a :: rest))
              = unrefused refuses (transcript step (step s a).2 rest) := by
            simp [unrefused, transcript, hanswer]
          have hafter : stateAfter step s (a :: rest) = stateAfter step (step s a).2 rest := rfl
          rw [accepted, hdrop, hafter]
          rw [accepted] at hentries hstate
          rw [hrefuse s a hanswer] at hentries hstate ⊢
          exact ⟨hentries, hstate⟩
      | false =>
          have hkeep : unrefused refuses (transcript step s (a :: rest))
              = ⟨a, (step s a).1, (step s a).2⟩
                :: unrefused refuses (transcript step (step s a).2 rest) := by
            simp [unrefused, transcript, hanswer]
          rw [accepted, hkeep, List.map_cons]
          exact ⟨congrArg (_ :: ·) hentries, hstate⟩

end

end DrawingBoard

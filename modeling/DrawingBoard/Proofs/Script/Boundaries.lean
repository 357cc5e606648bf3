/-
Where a script is cut.

Of all the resets and updates of a script only the last ones count.  What follows the
last reset is what the script is about, and in it the last update parts what is handed on
from what waits.  `Batch.cut` says so by looking at the whole script at once, while a
batcher goes through it operation by operation, with a count that each update moves and
each reset sets back.  The two agree for every script and every pool
(`read_cuts_at_last`).

The induction goes along the operations of the ledger, from the last one back: a new
update ends all batches before it, and any other operation joins the one that is open.
What the ledger holds stays in order all the while, handed on or not
(`released_append_pool_enterAll`).
-/
import DrawingBoard.Proofs.Script.Batching
import DrawingBoard.Proofs.Transcript
import Mathlib.Data.List.DropRight

namespace DrawingBoard

namespace Operation

/-- The operations after the last `mark`; all of them if there is none. -/
def afterLast (mark : Operation) (ops : List Operation) : List Operation :=
  ops.rtakeWhile fun op => decide (op ≠ mark)

/-- The operations up to the last `mark` and with it; none if there is none. -/
def upToLast (mark : Operation) (ops : List Operation) : List Operation :=
  ops.rdropWhile fun op => decide (op ≠ mark)

/-- The operations that do not end a batch. -/
def drawables (ops : List Operation) : List Operation := ops.filter fun op => !op.endsBatch

theorem upToLast_append_afterLast (mark : Operation) (ops : List Operation) :
    upToLast mark ops ++ afterLast mark ops = ops :=
  List.rdropWhile_append_rtakeWhile

theorem not_mem_afterLast (mark : Operation) (ops : List Operation) :
    mark ∉ afterLast mark ops := by
  intro hmem
  have := List.mem_rtakeWhile_imp hmem
  simp at this

theorem mem_of_mem_afterLast {mark op : Operation} {ops : List Operation}
    (h : op ∈ afterLast mark ops) : op ∈ ops :=
  (List.rtakeWhile_suffix _ ops).subset h

/-- The operations up to the last mark end with it. -/
theorem exists_upToLast {mark : Operation} {ops : List Operation} (h : mark ∈ ops) :
    ∃ before, upToLast mark ops = before ++ [mark] := by
  have hne : upToLast mark ops ≠ [] := by
    intro hnil
    rw [upToLast, List.rdropWhile_eq_nil_iff] at hnil
    simpa using hnil mark h
  have hlast : (upToLast mark ops).getLast hne = mark := by
    by_contra hother
    exact List.rdropWhile_last_not _ ops hne (decide_eq_true hother)
  have hsplit := List.dropLast_append_getLast hne
  rw [hlast] at hsplit
  exact ⟨_, hsplit.symm⟩

theorem upToLast_of_not_mem {mark : Operation} {ops : List Operation} (h : mark ∉ ops) :
    upToLast mark ops = [] := by
  rw [upToLast, List.rdropWhile_eq_nil_iff]
  intro op hop
  exact decide_eq_true fun heq => h (heq ▸ hop)

theorem afterLast_of_not_mem {mark : Operation} {ops : List Operation} (h : mark ∉ ops) :
    afterLast mark ops = ops := by
  have hsplit := upToLast_append_afterLast mark ops
  rwa [upToLast_of_not_mem h, List.nil_append] at hsplit

end Operation

open Operation

namespace Batch

/-- What is handed on and what waits, told from the last reset and from the last update. -/
def cut (pool ops : List Operation) : List Operation × List Operation :=
  if .reset ∈ ops then
    (.reset :: drawables (upToLast .update (afterLast .reset ops)),
      afterLast .update (afterLast .reset ops))
  else if .update ∈ ops then
    (pool ++ drawables (upToLast .update ops), afterLast .update ops)
  else ([], pool ++ ops)

end Batch

/-! ### The ledger -/

namespace Ledger

/-- Without a reset, all that was in the ledger stays in order, and what is entered is added. -/
theorem released_append_pool_enterAll {ops : List Operation} (h : .reset ∉ ops) :
    ∀ l : Ledger, (l.enterAll ops).released ++ (l.enterAll ops).pool
      = l.released ++ l.pool ++ drawables ops := by
  induction ops with
  | nil => intro l; simp [enterAll, drawables]
  | cons op rest ih =>
      intro l
      rw [List.mem_cons, not_or] at h
      show ((l.enter op).enterAll rest).released ++ ((l.enter op).enterAll rest).pool = _
      rw [ih h.2]
      cases op with
      | reset => exact absurd rfl h.1
      | update => simp [enter, drawables, endsBatch]
      | _ => simp [enter, drawables, endsBatch]

/-- Without a reset, the last update parts what is handed on from what waits. -/
theorem enterAll_of_no_reset (l : Ledger) {ops : List Operation} (h : .reset ∉ ops) :
    l.enterAll ops =
      if .update ∈ ops then
        { released := l.released ++ l.pool ++ drawables (upToLast .update ops)
          pool := afterLast .update ops }
      else { l with pool := l.pool ++ ops } := by
  induction ops using List.reverseRecOn with
  | nil => simp [enterAll]
  | append_singleton ops op ih =>
      rw [List.mem_append, not_or] at h
      have hprevious := ih h.1
      have hstep : l.enterAll (ops ++ [op]) = (l.enterAll ops).enter op := l.enterAll_append ops [op]
      by_cases hop : op = .update
      · subst hop
        have hall : upToLast .update (ops ++ [.update]) = ops ++ [.update] :=
          List.rdropWhile_concat_neg _ _ _ (by simp)
        have hnone : afterLast .update (ops ++ [.update]) = [] :=
          List.rtakeWhile_concat_neg _ _ _ (by simp)
        rw [if_pos (by simp), hall, hnone, hstep]
        show Ledger.mk ((l.enterAll ops).released ++ (l.enterAll ops).pool) [] = _
        rw [released_append_pool_enterAll h.1]
        simp [drawables, endsBatch]
      · have hup : upToLast .update (ops ++ [op]) = upToLast .update ops :=
          List.rdropWhile_concat_pos _ _ _ (by simpa using hop)
        have hafter : afterLast .update (ops ++ [op]) = afterLast .update ops ++ [op] :=
          List.rtakeWhile_concat_pos _ _ _ (by simpa using hop)
        have henter : ∀ l : Ledger, l.enter op = { l with pool := l.pool ++ [op] } := by
          intro l
          cases op with
          | reset => simp at h
          | update => exact absurd rfl hop
          | _ => rfl
        rw [hstep, henter, hprevious, hup, hafter]
        by_cases hmem : .update ∈ ops
        · simp [hmem]
        · simp [hmem, Ne.symm hop]

end Ledger

/-- **A script is cut at its last reset and its last update.** -/
theorem Batch.settle_ofOperations_eq_cut (pool ops : List Operation) :
    (ofOperations ops).settle pool = cut pool ops := by
  rw [settle_ofOperations, cut]
  by_cases hreset : .reset ∈ ops
  · have hstart : Ledger.enterAll { pool } ops
        = Ledger.enterAll { released := [.reset] } (afterLast .reset ops) := by
      obtain ⟨before, hbefore⟩ := exists_upToLast hreset
      have hops := upToLast_append_afterLast .reset ops
      rw [hbefore, List.append_assoc] at hops
      conv => lhs; rw [← hops, Ledger.enterAll_append]
      rfl
    rw [if_pos hreset, hstart, Ledger.enterAll_of_no_reset _ (not_mem_afterLast .reset ops)]
    by_cases hupdate : .update ∈ afterLast .reset ops
    · rw [if_pos hupdate]
      rfl
    · rw [if_neg hupdate, upToLast_of_not_mem hupdate, afterLast_of_not_mem hupdate]
      rfl
  · rw [if_neg hreset, Ledger.enterAll_of_no_reset _ hreset]
    by_cases hupdate : .update ∈ ops
    · rw [if_pos hupdate, if_pos hupdate]
      rfl
    · rw [if_neg hupdate, if_neg hupdate]

/-! ### What is handed on, and what waits -/

namespace Batch

/-- No operation ends a batch. -/
def Waiting (ops : List Operation) : Prop := ∀ op ∈ ops, op.endsBatch = false

/-- No operation is an update, and only the first may be a reset. -/
structure Released (ops : List Operation) : Prop where
  update : .update ∉ ops
  reset : .reset ∉ ops.tail

theorem waiting_drawables (ops : List Operation) : Waiting (drawables ops) :=
  fun _ hop => by simpa using (List.mem_filter.mp hop).2

theorem Waiting.append {ops ops' : List Operation} (h : Waiting ops) (h' : Waiting ops') :
    Waiting (ops ++ ops') := List.forall_mem_append.mpr ⟨h, h'⟩

theorem Waiting.released {ops : List Operation} (h : Waiting ops) : Released ops where
  update := fun hmem => by simpa [endsBatch] using h _ hmem
  reset := fun hmem => by simpa [endsBatch] using h _ (List.mem_of_mem_tail hmem)

theorem Waiting.released_cons_reset {ops : List Operation} (h : Waiting ops) :
    Released (.reset :: ops) where
  update := fun hmem => h.released.update (by simpa using hmem)
  reset := fun hmem => by simpa [endsBatch] using h _ hmem

theorem waiting_of_not_mem {ops : List Operation} (hreset : .reset ∉ ops)
    (hupdate : .update ∉ ops) : Waiting ops := by
  intro op hop
  cases op with
  | reset => exact absurd hop hreset
  | update => exact absurd hop hupdate
  | _ => rfl

theorem waiting_afterLast_update {ops : List Operation} (h : .reset ∉ ops) :
    Waiting (afterLast .update ops) :=
  waiting_of_not_mem (fun hmem => h (mem_of_mem_afterLast hmem)) (not_mem_afterLast .update ops)

theorem waiting_cut {pool : List Operation} (h : Waiting pool) (ops : List Operation) :
    Waiting (cut pool ops).2 := by
  unfold cut
  by_cases hreset : .reset ∈ ops
  · rw [if_pos hreset]
    exact waiting_afterLast_update (not_mem_afterLast .reset ops)
  · rw [if_neg hreset]
    by_cases hupdate : .update ∈ ops
    · rw [if_pos hupdate]
      exact waiting_afterLast_update hreset
    · rw [if_neg hupdate]
      exact h.append (waiting_of_not_mem hreset hupdate)

theorem released_cut {pool : List Operation} (h : Waiting pool) (ops : List Operation) :
    Released (cut pool ops).1 := by
  unfold cut
  by_cases hreset : .reset ∈ ops
  · rw [if_pos hreset]
    exact (waiting_drawables _).released_cons_reset
  · rw [if_neg hreset]
    by_cases hupdate : .update ∈ ops
    · rw [if_pos hupdate]
      exact (h.append (waiting_drawables _)).released
    · rw [if_neg hupdate]
      exact ⟨by simp, by simp⟩

end Batch

/-! ### Scripts -/

namespace Batcher

theorem read_of_means (b : Batcher) {script : String} {ops : List Operation}
    (h : List.Forall₂ Command.Means (Command.ofScript script) ops) :
    b.read script = (.ok (Batch.cut b.pool ops).1, { pool := (Batch.cut b.pool ops).2 }) := by
  simp only [read, Operation.ofScript_eq_ok_iff.mpr h, Batch.settle_ofOperations_eq_cut]

theorem waiting_read {b : Batcher} (h : Batch.Waiting b.pool) (script : String) :
    Batch.Waiting (b.read script).2.pool ∧
      ∀ released, (b.read script).1 = .ok released → Batch.Released released := by
  cases hops : Operation.ofScript script with
  | error e =>
      have hread : b.read script = (.error e, b) := by simp only [read, hops]
      rw [hread]
      exact ⟨h, by simp⟩
  | ok ops =>
      rw [read_of_means b (Operation.ofScript_eq_ok_iff.mp hops)]
      refine ⟨Batch.waiting_cut h ops, fun released hreleased => ?_⟩
      exact Except.ok.inj hreleased ▸ Batch.released_cut h ops

/-- What has ever waited did not end a batch, and what was handed on has its reset in front. -/
structure Tidy (log : List (Entry Batcher String (Except ScriptError (List Operation))))
    (b : Batcher) : Prop where
  waiting : Batch.Waiting b.pool
  log : ∀ entry ∈ log, Batch.Waiting entry.after.pool ∧
    ∀ released, entry.answer = .ok released → Batch.Released released

theorem tidy (scripts : List String) :
    Tidy (transcript read {} scripts) (stateAfter read {} scripts) := by
  refine transcript_keeps (I := Tidy) (fun past b script h => ?_) scripts
    ⟨by simp [Batch.Waiting], by simp⟩
  have hread := waiting_read h.waiting script
  exact ⟨hread.1, List.forall_mem_append.mpr ⟨h.log, List.forall_mem_singleton.mpr hread⟩⟩

/--
**The last reset and the last update of a script decide what it hands on.**

A script whose commands all mean something is answered as `Batch.cut` says, whatever was
waiting.  So when scripts are read one after the other, from an empty pool on, what waits
never holds a reset or an update, and what is handed on never holds an update, and a reset
at the front only.
-/
theorem read_cuts_at_last :
    (∀ (b : Batcher) (script : String) (ops : List Operation),
      List.Forall₂ Command.Means (Command.ofScript script) ops →
        b.read script = (.ok (Batch.cut b.pool ops).1, { pool := (Batch.cut b.pool ops).2 })) ∧
    ∀ scripts : List String, ∀ entry ∈ transcript read {} scripts,
      (.reset ∉ entry.after.pool ∧ .update ∉ entry.after.pool) ∧
        ∀ released, entry.answer = .ok released → .update ∉ released ∧ .reset ∉ released.tail := by
  refine ⟨fun b script ops h => b.read_of_means h, fun scripts entry hentry => ?_⟩
  obtain ⟨hwaiting, hreleased⟩ := (tidy scripts).log entry hentry
  refine ⟨⟨fun hmem => ?_, hwaiting.released.update⟩, fun released hanswer => ?_⟩
  · simpa [endsBatch] using hwaiting _ hmem
  · exact ⟨(hreleased released hanswer).update, (hreleased released hanswer).reset⟩

/-- Two resets and four updates, of which the last ones count. -/
def mixed : String :=
  "white & update\nreset & green\nupdate & white\nreset & white & update\ngreen & update & white"

/-- The operations of `mixed` since its last reset. -/
def unmixed : String := "white & update\ngreen & update & white"

/-- What was waiting is thrown away; without the resets it is handed on. -/
theorem read_cuts_at_last_mixed :
    List.Forall₂ Command.Means (Command.ofScript unmixed)
        [.fill Color.white, .update, .fill Color.grass, .update, .fill Color.white] ∧
      read { pool := [.fill Color.grass] } mixed
        = (.ok [.reset, .fill Color.white, .fill Color.grass], { pool := [.fill Color.white] }) ∧
      read { pool := [.fill Color.grass] } unmixed
        = (.ok [.fill Color.grass, .fill Color.white, .fill Color.grass],
            { pool := [.fill Color.white] }) := by
  obtain ⟨hread, -⟩ := read_cuts_at_last
  have hmixed : List.Forall₂ Command.Means (Command.ofScript mixed)
      [.fill Color.white, .update, .reset, .fill Color.grass, .update, .fill Color.white, .reset,
        .fill Color.white, .update, .fill Color.grass, .update, .fill Color.white] :=
    Operation.ofScript_eq_ok_iff.mp (by decide +kernel)
  have hunmixed : List.Forall₂ Command.Means (Command.ofScript unmixed)
      [.fill Color.white, .update, .fill Color.grass, .update, .fill Color.white] :=
    Operation.ofScript_eq_ok_iff.mp (by decide +kernel)
  exact ⟨hunmixed, hread _ _ _ hmixed, hread _ _ _ hunmixed⟩

end Batcher

end DrawingBoard

/-
How scripts are cut does not matter.

The batcher remembers operations from one script to the next, so what it hands on
depends on where one script ends and the next begins.  What the board shows in the
end does not (`cut_invariance`).

The reference is a ledger that enters operations one at a time.  A single script does
to the pool exactly what the ledger does, and hands on exactly what the ledger has
released (`settle_ofOperations`).  Over several scripts the pool still agrees, and so
does what is released as long as there is no reset.  A reset is where they part: the
ledger forgets all that it released before, while scripts that were read earlier have
handed it on.  On the board it makes no difference, since the reset that follows takes
it off again and only the count of ids remembers it.
-/
import DrawingBoard.Proofs.Scene.Renumbering
import DrawingBoard.Proofs.Script.Meaning
import DrawingBoard.Script.Batcher

namespace DrawingBoard

/-! ### The ledger -/

/-- Operations that have been handed on since the last reset, and operations that wait. -/
structure Ledger where
  released : List Operation := []
  pool : List Operation := []

namespace Ledger

/-- Enters one operation. -/
def enter (l : Ledger) : Operation → Ledger
  | .update => { released := l.released ++ l.pool, pool := [] }
  | .reset => { released := [.reset], pool := [] }
  | op => { l with pool := l.pool ++ [op] }

/-- Enters operations one after the other. -/
def enterAll (l : Ledger) (ops : List Operation) : Ledger := ops.foldl enter l

theorem enterAll_append (l : Ledger) (ops ops' : List Operation) :
    l.enterAll (ops ++ ops') = (l.enterAll ops).enterAll ops' := List.foldl_append

/-- The ledger with more operations handed on before. -/
def after (before : List Operation) (l : Ledger) : Ledger :=
  { l with released := before ++ l.released }

/-- Without a reset, what was handed on before stays in front. -/
theorem enterAll_after_of_no_reset (before : List Operation) {ops : List Operation}
    (h : Operation.reset ∉ ops) :
    ∀ l : Ledger, (l.after before).enterAll ops = (l.enterAll ops).after before := by
  induction ops with
  | nil => intro l; rfl
  | cons op rest ih =>
      intro l
      have hstep : (l.after before).enter op = (l.enter op).after before := by
        cases op with
        | reset => simp at h
        | update => simp [enter, after]
        | _ => rfl
      show ((l.after before).enter op).enterAll rest = _
      rw [hstep]
      exact ih (fun hc => h (by simp [hc])) _

/-- The ledgers hold the same pool, and what they have handed on has the same effect. -/
structure Alike (l l' : Ledger) : Prop where
  pool : l.pool = l'.pool
  released : Scene.SameEffect l.released l'.released

theorem Alike.refl (l : Ledger) : l.Alike l := ⟨rfl, .refl _⟩

/-- What was handed on before goes on having its effect, until a reset takes it away. -/
theorem Alike.enter {before : List Operation} {l l' : Ledger} (h : (l.after before).Alike l')
    (op : Operation) : ((l.enter op).after before).Alike (l'.enter op) := by
  cases op with
  | reset => exact ⟨rfl, .before_reset before⟩
  | update =>
      refine ⟨rfl, ?_⟩
      have hpool : Scene.SameEffect l.pool l'.pool := h.pool ▸ .refl _
      have := h.released.append hpool
      rwa [after, List.append_assoc] at this
  | _ => exact ⟨congrArg (· ++ _) h.pool, h.released⟩

theorem Alike.enterAll (before ops : List Operation) :
    ∀ {l l' : Ledger}, (l.after before).Alike l' →
      ((l.enterAll ops).after before).Alike (l'.enterAll ops) := by
  induction ops with
  | nil => intro l l' h; exact h
  | cons op rest ih => intro l l' h; exact ih (h.enter op)

end Ledger

/-! ### One script -/

namespace Batch

/-- A batch that has not ended holds no reset, and none ends beyond the operations. -/
structure Sound (b : Batch) : Prop where
  unended : b.ended = none → b.reset = false
  ended : ∀ n, b.ended = some n → n ≤ b.ops.length

theorem Sound.push {b : Batch} (h : b.Sound) (op : Operation) : (b.push op).Sound := by
  have hkeep : Sound { b with ops := b.ops ++ [op] } :=
    ⟨h.unended, fun n hn => Nat.le_trans (h.ended n hn) (by simp)⟩
  cases op with
  | update => exact ⟨fun hn => by simp [Batch.push] at hn, fun n hn => by simp_all [Batch.push]⟩
  | reset => exact ⟨fun hn => by simp [Batch.push] at hn, fun n hn => by simp_all [Batch.push]⟩
  | _ => exact hkeep

/-- What a batch comes to with a pool that was waiting, as a ledger. -/
def ledger (b : Batch) (pool : List Operation) : Ledger :=
  { released := (b.settle pool).1, pool := (b.settle pool).2 }

/-- A batch goes on as the ledger does. -/
theorem ledger_push {b : Batch} (h : b.Sound) (pool : List Operation) (op : Operation) :
    (b.push op).ledger pool = (b.ledger pool).enter op := by
  obtain ⟨ops, ended, reset⟩ := b
  have hkeep : ∀ op, (Batch.mk (ops ++ [op]) ended reset).ledger pool
      = { (Batch.mk ops ended reset).ledger pool with
          pool := ((Batch.mk ops ended reset).ledger pool).pool ++ [op] } := by
    intro op
    cases ended with
    | none => simp [ledger, settle]
    | some n =>
        have hn : n ≤ ops.length := h.ended n rfl
        simp [ledger, settle, List.take_append_of_le_length hn, List.drop_append_of_le_length hn]
  cases op with
  | update =>
      cases ended with
      | none =>
          have hreset : reset = false := h.unended rfl
          simp [ledger, settle, Batch.push, Ledger.enter, hreset]
      | some n =>
          simp only [ledger, settle, Batch.push, Ledger.enter, List.take_length, List.drop_length,
            List.append_assoc, List.take_append_drop]
          rfl
  | reset => rfl
  | _ => exact hkeep _

/-- **A script hands on and keeps what the ledger does, one operation at a time.** -/
theorem settle_ofOperations (ops pool : List Operation) :
    (ofOperations ops).settle pool
      = ((Ledger.enterAll { pool } ops).released, (Ledger.enterAll { pool } ops).pool) := by
  have hfold : ∀ (ops : List Operation) {b : Batch}, b.Sound →
      (ops.foldl push b).ledger pool = (b.ledger pool).enterAll ops := by
    intro ops
    induction ops with
    | nil => intro b _; rfl
    | cons op rest ih =>
        intro b hb
        show (rest.foldl push (b.push op)).ledger pool = _
        rw [ih (hb.push op), ledger_push hb]
        rfl
  have hstart : Sound {} := ⟨fun _ => rfl, fun n hn => by simp at hn⟩
  have hempty : Batch.ledger {} pool = { pool } := by simp [ledger, settle]
  rw [← hempty, ← hfold ops hstart]
  rfl

end Batch

/-! ### Scripts one after the other -/

namespace Batcher

/-- Reads scripts one after the other: the answers in their order, and what waits in the end. -/
def readAll (b : Batcher) :
    List String → List (Except ScriptError (List Operation)) × Batcher
  | [] => ([], b)
  | script :: rest =>
    let (answer, b) := b.read script
    let (answers, b) := readAll b rest
    (answer :: answers, b)

theorem readAll_cons (b : Batcher) (script : String) (rest : List String) :
    b.readAll (script :: rest)
      = ((b.read script).1 :: ((b.read script).2.readAll rest).1,
        ((b.read script).2.readAll rest).2) := rfl

/-- The operations that accepted scripts have handed on. -/
def released (answers : List (Except ScriptError (List Operation))) : List Operation :=
  answers.flatMap fun answer => answer.toOption.getD []

theorem released_append (answers answers' : List (Except ScriptError (List Operation))) :
    released (answers ++ answers') = released answers ++ released answers' := List.flatMap_append

/-- Reading one more script. -/
theorem readAll_concat (script : String) (scripts : List String) :
    ∀ b : Batcher, b.readAll (scripts ++ [script])
      = ((b.readAll scripts).1 ++ [((b.readAll scripts).2.read script).1],
        ((b.readAll scripts).2.read script).2) := by
  induction scripts with
  | nil => intro b; rfl
  | cons first rest ih =>
      intro b
      rw [List.cons_append, readAll_cons, readAll_cons, ih]
      rfl

/-- Reading an accepted script enters its operations in the ledger. -/
theorem read_of_ofScript {b : Batcher} {script : String} {ops : List Operation}
    (h : Operation.ofScript script = .ok ops) :
    b.read script = (.ok (Ledger.enterAll { pool := b.pool } ops).released,
      { pool := (Ledger.enterAll { pool := b.pool } ops).pool }) := by
  simp only [read, h, Batch.settle_ofOperations]

/-- What several accepted scripts come to, compared with the ledger of all their operations. -/
structure Agrees (b : Batcher) (scripts : List String) (ops : List Operation) : Prop where
  accepted : ∀ answer ∈ (b.readAll scripts).1, answer.isOk = true
  pool : (b.readAll scripts).2.pool = (Ledger.enterAll { pool := b.pool } ops).pool
  released : Operation.reset ∉ ops →
    released (b.readAll scripts).1 = (Ledger.enterAll { pool := b.pool } ops).released
  effect : Scene.SameEffect (Batcher.released (b.readAll scripts).1)
    (Ledger.enterAll { pool := b.pool } ops).released

/-- One more accepted script in front. -/
theorem Agrees.cons {b : Batcher} {script : String} {rest : List String}
    {first later : List Operation} (h : Operation.ofScript script = .ok first)
    (hrest : Agrees { pool := (Ledger.enterAll { pool := b.pool } first).pool } rest later) :
    b.Agrees (script :: rest) (first ++ later) := by
  have hread := read_of_ofScript (b := b) h
  set entered := Ledger.enterAll { pool := b.pool } first
  have hwhole : Ledger.enterAll { pool := b.pool } (first ++ later) = entered.enterAll later :=
    Ledger.enterAll_append ..
  have hstart : Ledger.after entered.released { pool := entered.pool } = entered := by
    simp only [Ledger.after, List.append_nil]
  have halike : ((Ledger.enterAll { pool := entered.pool } later).after entered.released).Alike
      (entered.enterAll later) := by
    refine Ledger.Alike.enterAll entered.released later ?_
    rw [hstart]
    exact .refl entered
  have hanswers : (b.readAll (script :: rest)).1
      = .ok entered.released :: (readAll { pool := entered.pool } rest).1 := by
    rw [readAll_cons, hread]
  have hpool : (b.readAll (script :: rest)).2 = (readAll { pool := entered.pool } rest).2 := by
    rw [readAll_cons, hread]
  have hreleased : Batcher.released (b.readAll (script :: rest)).1
      = entered.released ++ Batcher.released (readAll { pool := entered.pool } rest).1 := by
    rw [hanswers]
    rfl
  refine ⟨?_, ?_, fun hreset => ?_, ?_⟩
  · intro answer hanswer
    rw [hanswers] at hanswer
    rcases List.mem_cons.mp hanswer with rfl | hanswer
    · rfl
    · exact hrest.accepted answer hanswer
  · rw [hpool, hwhole, hrest.pool]
    exact halike.pool
  · have hlater : Operation.reset ∉ later := fun hc => hreset (List.mem_append_right _ hc)
    have hsame := Ledger.enterAll_after_of_no_reset entered.released hlater
      { pool := entered.pool }
    rw [hstart] at hsame
    rw [hreleased, hwhole, hrest.released hlater, hsame]
    rfl
  · rw [hreleased, hwhole]
    exact ((Scene.SameEffect.refl _).append hrest.effect).trans halike.released

theorem agrees_of_means (scripts : List String) :
    ∀ {b : Batcher} {ops : List Operation},
      List.Forall₂ Command.Means (scripts.flatMap Command.ofScript) ops → b.Agrees scripts ops := by
  induction scripts with
  | nil =>
      intro b ops h
      rw [List.flatMap_nil, List.forall₂_nil_left_iff] at h
      subst h
      exact ⟨by simp [readAll], rfl, fun _ => rfl, .refl _⟩
  | cons script rest ih =>
      intro b ops h
      rw [List.flatMap_cons] at h
      obtain ⟨first, later, rfl, hfirst, hlater⟩ := forall₂_append_left h
      exact .cons (Operation.ofScript_eq_ok_iff.mpr hfirst) (ih hlater)

/-- The scripts, read one after the other, hold exactly these commands, in whatever layout. -/
def Spells (scripts : List String) (commands : List Command) : Prop :=
  (scripts.flatMap Command.ofScript).map Command.words = commands.map Command.words

theorem Spells.means {scripts : List String} {commands : List Command} {ops : List Operation}
    (h : Spells scripts commands) (hops : List.Forall₂ Command.Means commands ops) :
    List.Forall₂ Command.Means (scripts.flatMap Command.ofScript) ops := by
  have htransfer : ∀ {cs : List Command} {ops : List Operation},
      List.Forall₂ Command.Means cs ops → ∀ ds : List Command,
        ds.map Command.words = cs.map Command.words → List.Forall₂ Command.Means ds ops := by
    intro cs ops hcs
    induction hcs with
    | nil =>
        intro ds hds
        rw [List.map_eq_nil_iff.mp hds]
        exact .nil
    | cons hc _ ih =>
        intro ds hds
        obtain ⟨d, rest, rfl, hd, hrest⟩ := List.map_eq_cons_iff.mp hds
        exact .cons (hc.of_words hd.symm) (ih rest hrest)
  exact htransfer hops _ h

/--
**How commands are cut into scripts does not matter.**

Whatever was waiting at first and whatever the board looks like: two ways of writing
the same well-formed commands as successive scripts leave the same operations waiting;
they hand on the same operations if none of the commands is a reset; and the operations
that they hand on make the same of the board, but for one constant by which the ids of
the figures may differ.  No script is refused.
-/
theorem cut_invariance (b : Batcher) (s : Scene) {commands : List Command}
    (hwf : ∀ c ∈ commands, c.WellFormed) {cut cut' : List String} (hcut : Spells cut commands)
    (hcut' : Spells cut' commands) :
    (∀ answer ∈ (b.readAll cut).1 ++ (b.readAll cut').1, answer.isOk = true) ∧
      (b.readAll cut).2 = (b.readAll cut').2 ∧
      ((∀ c ∈ commands, c.keyword ≠ "reset") →
        released (b.readAll cut).1 = released (b.readAll cut').1) ∧
      (s.applyAll (released (b.readAll cut).1)).Renumbered
        (s.applyAll (released (b.readAll cut').1)) := by
  obtain ⟨ops, hops⟩ := Command.exists_means hwf
  have hone := agrees_of_means cut (b := b) (hcut.means hops)
  have htwo := agrees_of_means cut' (b := b) (hcut'.means hops)
  refine ⟨?_, ?_, fun hreset => ?_, ?_⟩
  · intro answer hanswer
    rcases List.mem_append.mp hanswer with hanswer | hanswer
    · exact hone.accepted answer hanswer
    · exact htwo.accepted answer hanswer
  · exact congrArg Batcher.mk (hone.pool.trans htwo.pool.symm)
  · have hnone : Operation.reset ∉ ops := by
      intro hmem
      obtain ⟨c, hc, hmeans⟩ := Command.exists_of_mem_means hops hmem
      exact hreset c hc (Command.keyword_of_means_reset hmeans)
    exact (hone.released hnone).trans (htwo.released hnone).symm
  · exact (hone.effect s s (.refl s)).trans (htwo.effect s s (.refl s)).symm

/-- A figure that is handed on before a reset. -/
def figureThenReset : List Command :=
  [⟨"figure", ["0.25", "0.5"], 1⟩, ⟨"update", [], 1⟩, ⟨"reset", [], 2⟩, ⟨"white", [], 2⟩]

/-- In one script the reset takes the figure along; in three, the figure was handed on. -/
theorem cut_invariance_figureThenReset :
    (∀ c ∈ figureThenReset, c.WellFormed) ∧
      Spells ["figure 0.25 0.5 & update\nreset & white"] figureThenReset ∧
      Spells ["figure 0.25 0.5\r\nupdate", "\nreset", "white"] figureThenReset ∧
      (readAll {} ["figure 0.25 0.5 & update\nreset & white"]).2
        = (readAll {} ["figure 0.25 0.5\r\nupdate", "\nreset", "white"]).2 ∧
      released (readAll {} ["figure 0.25 0.5 & update\nreset & white"]).1 = [.reset] ∧
      released (readAll {} ["figure 0.25 0.5\r\nupdate", "\nreset", "white"]).1
        = [.figure { center := ⟨0.25, 0.5⟩ }, .reset] ∧
      (Scene.empty.applyAll [.reset]).Renumbered
        (Scene.empty.applyAll [.figure { center := ⟨0.25, 0.5⟩ }, .reset]) := by
  have hwf : ∀ c ∈ figureThenReset, c.WellFormed := by
    simp only [figureThenReset, List.forall_mem_cons]
    exact ⟨⟨.figure, rfl, rfl, by decide⟩, ⟨.update, rfl, rfl, by decide⟩,
      ⟨.reset, rfl, rfl, by decide⟩, ⟨.white, rfl, rfl, by decide⟩, by simp⟩
  have hcut : Spells ["figure 0.25 0.5 & update\nreset & white"] figureThenReset := by
    unfold Spells
    decide
  have hcut' : Spells ["figure 0.25 0.5\r\nupdate", "\nreset", "white"] figureThenReset := by
    unfold Spells
    decide
  have hone : released (readAll {} ["figure 0.25 0.5 & update\nreset & white"]).1 = [.reset] := by
    decide
  have htwo : released (readAll {} ["figure 0.25 0.5\r\nupdate", "\nreset", "white"]).1
      = [.figure { center := ⟨0.25, 0.5⟩ }, .reset] := by
    decide +kernel
  obtain ⟨-, hpool, -, hsame⟩ := cut_invariance {} Scene.empty hwf hcut hcut'
  rw [hone, htwo] at hsame
  exact ⟨hwf, hcut, hcut', hpool, hone, htwo, hsame⟩

end Batcher

end DrawingBoard

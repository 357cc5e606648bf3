/-
Which scripts are accepted, and what is said of the others.

The grammar is a table.  A command is accepted if its keyword stands in the table, has as
many arguments as the table says, and all of them are numerals; it stands for the
operation that the table makes of their values (`Operation.Tabled`).  Any other command is
at fault in one of four ways, which `Command.Suffers` tells apart without reading the
command step by step.

A command is either accepted or suffers a fault (`conforms_or_suffers`), and a fault that it
suffers is the one that reading it reports (`operation_of_suffers`).  That is all about
single commands.  For a script it remains to see that reading stops at the first command
at fault (`accepts_grammar`).
-/
import DrawingBoard.Proofs.Script.Refusal

namespace DrawingBoard

/-! ### The table -/

/-- The lines of the operation table: a keyword, the numbers that it is given, and the operation
that they make. -/
inductive Operation.Tabled : String → List Float → Operation → Prop
  | white : Tabled "white" [] (.fill Color.white)
  | green : Tabled "green" [] (.fill Color.grass)
  | figure (x y : Float) : Tabled "figure" [x, y] (.figure { center := ⟨x, y⟩ })
  | boundingBox (x₁ y₁ x₂ y₂ : Float) :
      Tabled "brect" [x₁, y₁, x₂, y₂] (.boundingBox (.ofCorners ⟨x₁, y₁⟩ ⟨x₂, y₂⟩))
  | move (x y : Float) : Tabled "move" [x, y] (.move ⟨x, y⟩)
  | update : Tabled "update" [] .update
  | reset : Tabled "reset" [] .reset

namespace Keyword

theorem ofText?_eq_some_iff {word : String} {keyword : Keyword} :
    ofText? word = some keyword ↔ word = keyword.text := by
  constructor
  · intro hfound
    have htext : keyword.text = word := by simpa using List.find?_some hfound
    exact htext.symm
  · rintro rfl
    exact ofText?_text keyword

theorem ofText?_eq_none_iff {word : String} :
    ofText? word = none ↔ ∀ keyword : Keyword, word ≠ keyword.text := by
  rw [Option.eq_none_iff_forall_ne_some]
  exact forall_congr' fun keyword => not_congr ofText?_eq_some_iff

/-- No two keywords are spelled alike. -/
theorem eq_of_text_eq {keyword keyword' : Keyword} (h : keyword.text = keyword'.text) :
    keyword = keyword' := by
  have hfound : ofText? keyword.text = some keyword' := ofText?_eq_some_iff.mpr h
  rw [ofText?_text] at hfound
  exact Option.some.inj hfound

/-- What a keyword makes of its arguments is what the table says. -/
theorem operation?_eq_some_iff_tabled {keyword : Keyword} {args : List Float} {op : Operation} :
    keyword.operation? args = some op ↔ Operation.Tabled keyword.text args op := by
  constructor
  · intro hop
    unfold operation? at hop
    split at hop
    · exact Option.some.inj hop ▸ .white
    · exact Option.some.inj hop ▸ .green
    · exact Option.some.inj hop ▸ .figure _ _
    · exact Option.some.inj hop ▸ .boundingBox _ _ _ _
    · exact Option.some.inj hop ▸ .move _ _
    · exact Option.some.inj hop ▸ .update
    · exact Option.some.inj hop ▸ .reset
    · simp at hop
  · intro htabled
    generalize hword : keyword.text = word at htabled
    cases htabled with
    | white => obtain rfl : keyword = .white := eq_of_text_eq hword; rfl
    | green => obtain rfl : keyword = .green := eq_of_text_eq hword; rfl
    | figure x y => obtain rfl : keyword = .figure := eq_of_text_eq hword; rfl
    | boundingBox => obtain rfl : keyword = .boundingBox := eq_of_text_eq hword; rfl
    | move x y => obtain rfl : keyword = .move := eq_of_text_eq hword; rfl
    | update => obtain rfl : keyword = .update := eq_of_text_eq hword; rfl
    | reset => obtain rfl : keyword = .reset := eq_of_text_eq hword; rfl

/-- The keywords of the table are all there are. -/
theorem exists_of_tabled {word : String} {args : List Float} {op : Operation}
    (h : Operation.Tabled word args op) :
    ∃ keyword : Keyword, word = keyword.text ∧ keyword.operation? args = some op := by
  have hkeyword : ∃ keyword : Keyword, word = keyword.text := by
    cases h with
    | white => exact ⟨.white, rfl⟩
    | green => exact ⟨.green, rfl⟩
    | figure x y => exact ⟨.figure, rfl⟩
    | boundingBox => exact ⟨.boundingBox, rfl⟩
    | move x y => exact ⟨.move, rfl⟩
    | update => exact ⟨.update, rfl⟩
    | reset => exact ⟨.reset, rfl⟩
  obtain ⟨keyword, rfl⟩ := hkeyword
  exact ⟨keyword, rfl, operation?_eq_some_iff_tabled.mpr h⟩

theorem isControl_iff {keyword : Keyword} :
    keyword.isControl = true ↔ keyword = .update ∨ keyword = .reset := by
  cases keyword <;> simp [isControl]

end Keyword

/-! ### Single commands -/

/-- What follows from a pointwise relation for its first members. -/
theorem forall_left_of_forall₂ {α β : Type} {R : α → β → Prop} {p : α → Prop} {xs : List α}
    {ys : List β} (h : List.Forall₂ R xs ys) (himp : ∀ x y, R x y → p x) : ∀ x ∈ xs, p x :=
  ((List.forall₂_and_left xs ys).mp (h.imp fun x y hxy => ⟨himp x y hxy, hxy⟩)).1

/-- If an element of a list cannot be read, and all before it can, the list cannot be read, for the
same reason. -/
theorem mapM_eq_error {α β ε : Type} {f : α → Except ε β} {before after : List α} {x : α}
    {ys : List β} {e : ε} (hbefore : before.mapM f = .ok ys) (hx : f x = .error e) :
    (before ++ x :: after).mapM f = .error e := by
  rw [List.mapM_append, hbefore, List.mapM_cons, hx]
  rfl

namespace Command

/-- The command is a keyword of the table with as many arguments as it takes, all of them
numerals. -/
structure Conforms (c : Command) (keyword : Keyword) : Prop where
  spelling : c.keyword = keyword.text
  count : c.arguments.length = keyword.arity
  numerals : ∀ word ∈ c.arguments, (Numeral.read? word).isSome = true

/-- The fault of a command that does not conform. -/
inductive Suffers (c : Command) : Fault → Prop
  | unknownCommand (hword : ∀ keyword : Keyword, c.keyword ≠ keyword.text) :
      Suffers c .unknownCommand
  | inlineArguments {keyword : Keyword} (hword : c.keyword = keyword.text)
      (hcontrol : keyword = .update ∨ keyword = .reset) (hany : c.arguments ≠ []) :
      Suffers c .inlineArguments
  | argumentCount {keyword : Keyword} (hword : c.keyword = keyword.text)
      (hother : ¬ (keyword = .update ∨ keyword = .reset))
      (hcount : keyword.arity ≠ c.arguments.length) :
      Suffers c (.argumentCount keyword.arity c.arguments.length)
  | invalidNumber {keyword : Keyword} {before after : List String} {word : String}
      (hword : c.keyword = keyword.text) (hcount : c.arguments.length = keyword.arity)
      (harguments : c.arguments = before ++ word :: after)
      (hbefore : ∀ w ∈ before, (Numeral.read? w).isSome = true)
      (hfirst : Numeral.read? word = none) :
      Suffers c (.invalidNumber word)

theorem wellFormed_iff_conforms {c : Command} : c.WellFormed ↔ ∃ keyword, c.Conforms keyword := by
  refine exists_congr fun keyword => ?_
  rw [Keyword.ofText?_eq_some_iff]
  constructor
  · rintro ⟨hword, hcount, hnumerals⟩
    exact ⟨hword, hcount, hnumerals⟩
  · rintro ⟨hword, hcount, hnumerals⟩
    exact ⟨hword, hcount, hnumerals⟩

/-- What a command means is what the table makes of its keyword and the values of its
arguments. -/
theorem means_iff_tabled {c : Command} {op : Operation} :
    c.Means op ↔ ∃ args, List.Forall₂ (fun word x => Numeral.read? word = some x) c.arguments args ∧
      Operation.Tabled c.keyword args op := by
  constructor
  · rintro ⟨keyword, args, hkeyword, -, hargs, hop⟩
    rw [Keyword.ofText?_eq_some_iff] at hkeyword
    exact ⟨args, hargs, hkeyword ▸ Keyword.operation?_eq_some_iff_tabled.mp hop⟩
  · rintro ⟨args, hargs, hop⟩
    obtain ⟨keyword, hword, hop⟩ := Keyword.exists_of_tabled hop
    have hcount : args.length = keyword.arity :=
      (keyword.isSome_operation?_iff args).mp (Option.isSome_iff_exists.mpr ⟨op, hop⟩)
    exact ⟨keyword, args, Keyword.ofText?_eq_some_iff.mpr hword, hargs.length_eq.trans hcount,
      hargs, hop⟩

/-- A command that means something is accepted. -/
theorem Means.wellFormed {c : Command} {op : Operation} (h : c.Means op) : c.WellFormed := by
  obtain ⟨keyword, args, hkeyword, hcount, hargs, -⟩ := h
  exact ⟨keyword, hkeyword, hcount, forall_left_of_forall₂ hargs fun word x hx =>
    Option.isSome_iff_exists.mpr ⟨x, hx⟩⟩

/-- Among words that cannot all be read there is a first one that cannot. -/
theorem exists_first_unread {words : List String}
    (h : ¬ ∀ word ∈ words, (Numeral.read? word).isSome = true) :
    ∃ before word after, words = before ++ word :: after ∧
      (∀ w ∈ before, (Numeral.read? w).isSome = true) ∧ Numeral.read? word = none := by
  have hsome : (words.find? fun w => (Numeral.read? w).isNone).isSome = true := by
    rw [List.find?_isSome]
    simpa using h
  obtain ⟨word, hfound⟩ := Option.isSome_iff_exists.mp hsome
  obtain ⟨hword, before, after, hwords, hbefore⟩ := List.find?_eq_some_iff_append.mp hfound
  exact ⟨before, word, after, hwords, fun w hw => by simpa using hbefore w hw, by simpa using hword⟩

/-- **A command conforms to the table, or it suffers a fault.** -/
theorem conforms_or_suffers (c : Command) :
    (∃ keyword, c.Conforms keyword) ∨ ∃ fault, c.Suffers fault := by
  by_cases hknown : ∃ keyword : Keyword, c.keyword = keyword.text
  swap
  · exact .inr ⟨_, .unknownCommand fun keyword hword => hknown ⟨keyword, hword⟩⟩
  obtain ⟨keyword, hword⟩ := hknown
  by_cases hcount : c.arguments.length = keyword.arity
  swap
  · by_cases hcontrol : keyword = .update ∨ keyword = .reset
    · have hany : c.arguments ≠ [] := by
        intro hnil
        rw [hnil] at hcount
        rcases hcontrol with rfl | rfl <;> exact hcount rfl
      exact .inr ⟨_, .inlineArguments hword hcontrol hany⟩
    · exact .inr ⟨_, .argumentCount hword hcontrol (Ne.symm hcount)⟩
  by_cases hnumerals : ∀ word ∈ c.arguments, (Numeral.read? word).isSome = true
  · exact .inl ⟨keyword, hword, hcount, hnumerals⟩
  · obtain ⟨before, word, after, harguments, hbefore, hfirst⟩ := exists_first_unread hnumerals
    exact .inr ⟨_, .invalidNumber hword hcount harguments hbefore hfirst⟩

/-- Reading a command reports the fault that it suffers. -/
theorem operation_of_suffers {c : Command} {fault : Fault} (h : c.Suffers fault) :
    c.operation = .error (c.error fault) := by
  unfold operation
  cases h with
  | unknownCommand hword =>
      rw [Keyword.ofText?_eq_none_iff.mpr hword]
      rfl
  | @inlineArguments keyword hword hcontrol hany =>
      have hrefused : (keyword.isControl && !c.arguments.isEmpty) = true := by
        simp [Keyword.isControl_iff.mpr hcontrol, hany]
      simp only [Keyword.ofText?_eq_some_iff.mpr hword, hrefused]
      rfl
  | @argumentCount keyword hword hother hcount =>
      have hallowed : (keyword.isControl && !c.arguments.isEmpty) = false := by
        rw [Bool.eq_false_iff.mpr (mt Keyword.isControl_iff.mp hother)]
        rfl
      simp only [Keyword.ofText?_eq_some_iff.mpr hword, hallowed, ne_eq, Ne.symm hcount]
      rfl
  | @invalidNumber keyword before after word hword hcount harguments hbefore hfirst =>
      obtain ⟨args, hargs⟩ := exists_values hbefore
      have hread : c.arguments.mapM c.number = .error (c.error (.invalidNumber word)) := by
        rw [harguments]
        refine mapM_eq_error (mapM_number_eq_ok_iff.mpr hargs) ?_
        simp only [number, hfirst]
      simp only [Keyword.ofText?_eq_some_iff.mpr hword, control_of_length hcount, hcount, hread,
        Bool.false_eq_true, if_false, ne_eq, not_true_eq_false]
      rfl

/-- **A command is refused for the fault that it suffers**, and for no other. -/
theorem operation_eq_error_iff {c : Command} {e : ScriptError} :
    c.operation = .error e ↔ ∃ fault, c.Suffers fault ∧ e = c.error fault := by
  constructor
  · intro herror
    rcases c.conforms_or_suffers with hconforms | ⟨fault, hfault⟩
    · obtain ⟨op, hop⟩ := (wellFormed_iff_conforms.mpr hconforms).means
      rw [operation_eq_ok_iff.mpr hop] at herror
      simp at herror
    · rw [operation_of_suffers hfault] at herror
      exact ⟨fault, hfault, (Except.error.inj herror).symm⟩
  · rintro ⟨fault, hfault, rfl⟩
    exact operation_of_suffers hfault

/-- A command that suffers a fault does not conform. -/
theorem Suffers.not_wellFormed {c : Command} {fault : Fault} (h : c.Suffers fault) :
    ¬ c.WellFormed := by
  intro hwf
  obtain ⟨op, hop⟩ := hwf.means
  have hread := operation_eq_ok_iff.mpr hop
  rw [operation_of_suffers h] at hread
  simp at hread

/-- Once the number of arguments is right and all of them are read, nothing can go wrong any
more. -/
theorem exists_operation?_of_count {c : Command} {keyword : Keyword} {args : List Float}
    (hcount : c.arguments.length = keyword.arity) (hread : c.arguments.mapM c.number = .ok args) :
    ∃ op, keyword.operation? args = some op := by
  have hlength : args.length = keyword.arity :=
    (mapM_number_eq_ok_iff.mp hread).length_eq.symm.trans hcount
  exact Option.isSome_iff_exists.mp ((keyword.isSome_operation?_iff args).mpr hlength)

end Command

/-! ### Whole scripts -/

/-- **A script cannot be read for the fault of the first command that is not well formed.** -/
theorem Operation.ofScript_eq_error_iff {script : String} {e : ScriptError} :
    Operation.ofScript script = .error e ↔
      ∃ before c after, Command.ofScript script = before ++ c :: after ∧
        (∀ d ∈ before, d.WellFormed) ∧ ∃ fault, c.Suffers fault ∧ e = c.error fault := by
  unfold Operation.ofScript
  constructor
  · intro herror
    obtain ⟨before, c, after, hcommands, ⟨ops, hops⟩, hc⟩ := exists_of_mapM_eq_error herror
    have hbefore : ∀ d ∈ before, d.WellFormed :=
      forall_left_of_forall₂ (mapM_eq_ok_iff before |>.mp hops) fun d op hop =>
        (Command.operation_eq_ok_iff.mp hop).wellFormed
    exact ⟨before, c, after, hcommands, hbefore, Command.operation_eq_error_iff.mp hc⟩
  · rintro ⟨before, c, after, hcommands, hbefore, hc⟩
    obtain ⟨ops, hops⟩ := Command.exists_means hbefore
    rw [hcommands]
    have hread : before.mapM Command.operation = .ok ops := by
      rw [mapM_eq_ok_iff]
      exact hops.imp fun d op => Command.operation_eq_ok_iff.mpr
    exact mapM_eq_error hread (Command.operation_eq_error_iff.mpr hc)

/-- A script is accepted exactly if all of its commands are well formed. -/
theorem Operation.exists_ofScript_iff {script : String} :
    (∃ ops, Operation.ofScript script = .ok ops) ↔ ∀ c ∈ Command.ofScript script, c.WellFormed := by
  simp only [Operation.ofScript_eq_ok_iff]
  constructor
  · rintro ⟨ops, hops⟩
    exact forall_left_of_forall₂ hops fun c op hop => hop.wellFormed
  · exact fun hwf => Command.exists_means hwf

namespace Batcher

/-- An accepted script is cut into batches, and the last one joins what was waiting. -/
theorem read_of_ok (b : Batcher) {script : String} {ops : List Operation}
    (h : Operation.ofScript script = .ok ops) :
    b.read script = (.ok ((Batch.ofOperations ops).settle b.pool).1,
      { pool := ((Batch.ofOperations ops).settle b.pool).2 }) := by
  simp only [read, h]

theorem exists_ofScript_of_answer {b : Batcher} {script : String} {released : List Operation}
    (h : (b.read script).1 = .ok released) : ∃ ops, Operation.ofScript script = .ok ops := by
  cases hread : Operation.ofScript script with
  | ok ops => exact ⟨ops, rfl⟩
  | error e =>
      rw [answer_eq_error_iff.mpr hread] at h
      simp at h

/--
**A script is accepted if all of its commands stand in the table, and otherwise refused for the
first one that does not.**

Whatever is waiting in the pool:

  * A script is accepted exactly if the keyword of each of its commands is one of the table,
    with as many arguments as it takes, all of them numerals.
  * It is refused exactly with the fault that the first other command suffers, on the line and with
    the keyword of that command.
  * An error that speaks of the number of arguments names two different numbers.
  * The commands of an accepted script stand for the operations that the table makes of the values
    of their arguments, in their order, and these are what is entered.
  * Once the number of arguments of a command is right and all of them are read, the table makes an
    operation of them.
-/
theorem accepts_grammar (b : Batcher) (script : String) :
    ((∃ released, (b.read script).1 = .ok released) ↔
      ∀ c ∈ Command.ofScript script, ∃ keyword, c.Conforms keyword) ∧
    (∀ e, (b.read script).1 = .error e ↔
      ∃ before c after, Command.ofScript script = before ++ c :: after ∧
        (∀ d ∈ before, ∃ keyword, d.Conforms keyword) ∧ (¬ ∃ keyword, c.Conforms keyword) ∧
        ∃ fault, c.Suffers fault ∧ e = ⟨c.line, c.keyword, fault⟩) ∧
    (∀ e expected got, (b.read script).1 = .error e →
      e.fault = .argumentCount expected got → expected ≠ got) ∧
    (∀ released, (b.read script).1 = .ok released →
      ∃ ops, List.Forall₂
          (fun c op => ∃ args, List.Forall₂ (fun word x => Numeral.read? word = some x)
            c.arguments args ∧ Operation.Tabled c.keyword args op) (Command.ofScript script) ops ∧
        b.read script = (.ok ((Batch.ofOperations ops).settle b.pool).1,
          { pool := ((Batch.ofOperations ops).settle b.pool).2 })) ∧
    ∀ c ∈ Command.ofScript script, ∀ (keyword : Keyword) args, c.keyword = keyword.text →
      c.arguments.length = keyword.arity → c.arguments.mapM c.number = .ok args →
        ∃ op, keyword.operation? args = some op := by
  have hfault : ∀ e, (b.read script).1 = .error e ↔
      ∃ before c after, Command.ofScript script = before ++ c :: after ∧
        (∀ d ∈ before, d.WellFormed) ∧ ∃ fault, c.Suffers fault ∧ e = c.error fault := by
    intro e
    rw [answer_eq_error_iff, Operation.ofScript_eq_error_iff]
  refine ⟨?_, fun e => ?_, fun e expected got herror hcount => ?_, fun released hreleased => ?_,
    fun c _ keyword args _ hcount hread => Command.exists_operation?_of_count hcount hread⟩
  · simp only [← Command.wellFormed_iff_conforms, ← Operation.exists_ofScript_iff]
    constructor
    · rintro ⟨released, hreleased⟩
      exact exists_ofScript_of_answer hreleased
    · rintro ⟨ops, hops⟩
      exact ⟨_, congrArg Prod.fst (b.read_of_ok hops)⟩
  · simp only [← Command.wellFormed_iff_conforms]
    rw [hfault]
    constructor
    · rintro ⟨before, c, after, hcommands, hbefore, fault, hsuffers, he⟩
      exact ⟨before, c, after, hcommands, hbefore, hsuffers.not_wellFormed, fault, hsuffers, he⟩
    · rintro ⟨before, c, after, hcommands, hbefore, -, fault, hsuffers, he⟩
      exact ⟨before, c, after, hcommands, hbefore, fault, hsuffers, he⟩
  · obtain ⟨-, c, -, -, -, fault, hsuffers, rfl⟩ := (hfault e).mp herror
    obtain rfl : fault = .argumentCount expected got := hcount
    cases hsuffers with
    | argumentCount _ _ hne => exact hne
  · obtain ⟨ops, hops⟩ := exists_ofScript_of_answer hreleased
    refine ⟨ops, ?_, b.read_of_ok hops⟩
    exact (Operation.ofScript_eq_ok_iff.mp hops).imp fun c op => Command.means_iff_tabled.mp

/-- Two good commands, and three at fault. -/
def faulty : String := "white & figure .5 1e3\n\nmove 1 x2\r\nupdate now & brect 0 0 1"

/-- The first of the three is told, with its line.  The good ones alone are accepted. -/
theorem accepts_grammar_faulty :
    (∃ released, (read {} "white & figure .5 1e3\n& update").1 = .ok released) ∧
      (read { pool := [.update] } faulty).1 = .error ⟨3, "move", .invalidNumber "x2"⟩ ∧
      (read {} "brect 0 0 1").1 = .error ⟨1, "brect", .argumentCount 4 3⟩ ∧ 4 ≠ 3 := by
  have hwhite : Command.Conforms ⟨"white", [], 1⟩ .white := ⟨rfl, rfl, by decide⟩
  have hfigure : Command.Conforms ⟨"figure", [".5", "1e3"], 1⟩ .figure := ⟨rfl, rfl, by decide⟩
  have hupdate : Command.Conforms ⟨"update", [], 2⟩ .update := ⟨rfl, rfl, by decide⟩
  have hgood : Command.ofScript "white & figure .5 1e3\n& update"
      = [⟨"white", [], 1⟩, ⟨"figure", [".5", "1e3"], 1⟩, ⟨"update", [], 2⟩] := by decide
  have hfaulty : Command.ofScript faulty
      = [⟨"white", [], 1⟩, ⟨"figure", [".5", "1e3"], 1⟩] ++ ⟨"move", ["1", "x2"], 3⟩ ::
        [⟨"update", ["now"], 4⟩, ⟨"brect", ["0", "0", "1"], 4⟩] := by decide
  have hmove : Command.Suffers ⟨"move", ["1"] ++ "x2" :: [], 3⟩ (.invalidNumber "x2") :=
    .invalidNumber (rfl : _ = Keyword.move.text) rfl rfl (by decide) (by decide)
  obtain ⟨haccepts, -⟩ := accepts_grammar {} "white & figure .5 1e3\n& update"
  obtain ⟨-, hrefuses, -⟩ := accepts_grammar { pool := [.update] } faulty
  obtain ⟨-, -, hcounts, -⟩ := accepts_grammar {} "brect 0 0 1"
  have hbox : (read {} "brect 0 0 1").1 = .error ⟨1, "brect", .argumentCount 4 3⟩ := by decide
  refine ⟨haccepts.mpr ?_, (hrefuses _).mpr ?_, hbox, hcounts _ 4 3 hbox rfl⟩
  · rw [hgood]
    simp only [List.forall_mem_cons]
    exact ⟨⟨_, hwhite⟩, ⟨_, hfigure⟩, ⟨_, hupdate⟩, by simp⟩
  · refine ⟨_, _, _, hfaulty, ?_, ?_, _, hmove, rfl⟩
    · simp only [List.forall_mem_cons]
      exact ⟨⟨_, hwhite⟩, ⟨_, hfigure⟩, by simp⟩
    · rw [← Command.wellFormed_iff_conforms]
      exact hmove.not_wellFormed

end Batcher

end DrawingBoard

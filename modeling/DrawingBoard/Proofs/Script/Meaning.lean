/-
What a command means.

`Command.Means` says in one line which operation a command stands for: its keyword is
a known one, it has as many arguments as the keyword takes, all of them are numerals,
and the keyword makes the operation of their values.  Reading agrees with it
(`operation_eq_ok_iff`, `ofScript_eq_ok_iff`), and the place of the command in a script
does not occur in it, so a command means the same in every layout.
-/
import DrawingBoard.Script.Reading
import Mathlib.Data.List.Forall2

namespace DrawingBoard

/-- Reading a list succeeds exactly if each element can be read, and gives what they read as. -/
theorem mapM_eq_ok_iff {α β ε : Type} {f : α → Except ε β} (xs : List α) :
    ∀ {ys : List β}, xs.mapM f = .ok ys ↔ List.Forall₂ (fun x y => f x = .ok y) xs ys := by
  induction xs with
  | nil => intro ys; simp [pure, Except.pure, eq_comm]
  | cons x rest ih =>
      intro ys
      rw [List.mapM_cons, List.forall₂_cons_left_iff]
      cases hx : f x with
      | error e => simp [bind, Except.bind]
      | ok y =>
          cases hrest : rest.mapM f with
          | error e => simp [bind, Except.bind, ← ih, hrest]
          | ok more => simp [bind, Except.bind, pure, Except.pure, ← ih, hrest, eq_comm]

/-- If reading a list fails, it is with the error of the first element that cannot be read. -/
theorem exists_of_mapM_eq_error {α β ε : Type} {f : α → Except ε β} {e : ε} {xs : List α} :
    xs.mapM f = .error e →
      ∃ before x after, xs = before ++ x :: after ∧ (∃ ys, before.mapM f = .ok ys) ∧
        f x = .error e := by
  induction xs with
  | nil => intro herror; simp [pure, Except.pure] at herror
  | cons x rest ih =>
      intro herror
      rw [List.mapM_cons] at herror
      cases hx : f x with
      | error e' =>
          simp only [hx, bind, Except.bind, Except.error.injEq] at herror
          exact ⟨[], x, rest, rfl, ⟨[], rfl⟩, herror ▸ hx⟩
      | ok y =>
          have hrest : rest.mapM f = .error e := by
            cases hrest : rest.mapM f <;> simp_all [bind, Except.bind, pure, Except.pure]
          obtain ⟨before, x', after, rfl, ⟨ys, hys⟩, hx'⟩ := ih hrest
          refine ⟨x :: before, x', after, rfl, ⟨y :: ys, ?_⟩, hx'⟩
          simp [List.mapM_cons, hx, hys, bind, Except.bind, pure, Except.pure]

/-- A pointwise relation to a list put together from two comes apart in the same way. -/
theorem forall₂_append_left {α β : Type} {R : α → β → Prop} {xs ys : List α} :
    ∀ {zs : List β}, List.Forall₂ R (xs ++ ys) zs →
      ∃ us vs, zs = us ++ vs ∧ List.Forall₂ R xs us ∧ List.Forall₂ R ys vs := by
  induction xs with
  | nil => intro zs h; exact ⟨[], zs, rfl, .nil, h⟩
  | cons x rest ih =>
      intro zs h
      obtain ⟨z, zs', hz, hrest, rfl⟩ := List.forall₂_cons_left_iff.mp h
      obtain ⟨us, vs, rfl, hus, hvs⟩ := ih hrest
      exact ⟨z :: us, vs, rfl, .cons hz hus, hvs⟩

namespace Command

/-- The words of a command, without its place in the script. -/
def words (c : Command) : String × List String := (c.keyword, c.arguments)

/-- The command stands for the operation. -/
def Means (c : Command) (op : Operation) : Prop :=
  ∃ keyword args, Keyword.ofText? c.keyword = some keyword ∧
    c.arguments.length = keyword.arity ∧
    List.Forall₂ (fun word x => Numeral.read? word = some x) c.arguments args ∧
    keyword.operation? args = some op

/-- A known keyword, as many arguments as it takes, and all of them numerals. -/
def WellFormed (c : Command) : Prop :=
  ∃ keyword, Keyword.ofText? c.keyword = some keyword ∧
    c.arguments.length = keyword.arity ∧
    ∀ word ∈ c.arguments, (Numeral.read? word).isSome = true

theorem mapM_number_eq_ok_iff {c : Command} {words : List String} {args : List Float} :
    words.mapM c.number = .ok args ↔
      List.Forall₂ (fun word x => Numeral.read? word = some x) words args := by
  rw [mapM_eq_ok_iff]
  have hnumber : ∀ word x, c.number word = .ok x ↔ Numeral.read? word = some x := by
    intro word x
    unfold number
    cases Numeral.read? word with
    | none => simp
    | some y => simp
  simp only [hnumber]

/-- A command with the right number of arguments is never refused for having any. -/
theorem control_of_length {keyword : Keyword} {arguments : List String}
    (h : arguments.length = keyword.arity) : (keyword.isControl && !arguments.isEmpty) = false := by
  cases keyword <;> simp_all [Keyword.isControl, Keyword.arity]

/-- **Reading a command gives what it means, and nothing else is accepted.** -/
theorem operation_eq_ok_iff {c : Command} {op : Operation} :
    c.operation = .ok op ↔ c.Means op := by
  unfold operation Means
  cases hkey : Keyword.ofText? c.keyword with
  | none => simp [throw, throwThe, MonadExceptOf.throw]
  | some keyword =>
      simp only [bind, Except.bind, throw, throwThe, MonadExceptOf.throw, Option.some.injEq,
        exists_and_left, exists_eq_left']
      by_cases hlength : c.arguments.length = keyword.arity
      · simp only [control_of_length hlength, hlength, Bool.false_eq_true, if_false, ne_eq,
          not_true_eq_false, true_and]
        cases hargs : c.arguments.mapM c.number with
        | error e =>
            simp only [reduceCtorEq, false_iff, not_exists, not_and]
            intro args hread
            rw [← mapM_number_eq_ok_iff (c := c), hargs] at hread
            simp at hread
        | ok args =>
            have hread : ∀ args', List.Forall₂ (fun word x => Numeral.read? word = some x)
                c.arguments args' ↔ args = args' := by
              intro args'
              rw [← mapM_number_eq_ok_iff (c := c), hargs, Except.ok.injEq]
            simp only [hread, exists_eq_left']
            cases keyword.operation? args with
            | none => simp
            | some op' => simp [pure, Except.pure]
      · simp only [hlength, ne_eq, not_false_eq_true, if_true, false_and, iff_false]
        split <;> simp

/-- Words that can be read have values. -/
theorem exists_values {words : List String}
    (h : ∀ word ∈ words, (Numeral.read? word).isSome = true) :
    ∃ args, List.Forall₂ (fun word x => Numeral.read? word = some x) words args := by
  induction words with
  | nil => exact ⟨[], .nil⟩
  | cons word rest ih =>
      obtain ⟨x, hx⟩ := Option.isSome_iff_exists.mp (h word (by simp))
      obtain ⟨args, hargs⟩ := ih fun w hw => h w (by simp [hw])
      exact ⟨x :: args, .cons hx hargs⟩

/-- A well-formed command stands for an operation. -/
theorem WellFormed.means {c : Command} (h : c.WellFormed) : ∃ op, c.Means op := by
  obtain ⟨keyword, hkey, hlength, hnumerals⟩ := h
  obtain ⟨args, hargs⟩ := exists_values hnumerals
  have harity : args.length = keyword.arity := hargs.length_eq ▸ hlength
  obtain ⟨op, hop⟩ := Option.isSome_iff_exists.mp
    ((keyword.isSome_operation?_iff args).mpr harity)
  exact ⟨op, keyword, args, hkey, hlength, hargs, hop⟩

/-- Well-formed commands stand for as many operations. -/
theorem exists_means {commands : List Command} (h : ∀ c ∈ commands, c.WellFormed) :
    ∃ ops, List.Forall₂ Means commands ops := by
  induction commands with
  | nil => exact ⟨[], .nil⟩
  | cons c rest ih =>
      obtain ⟨op, hop⟩ := (h c (by simp)).means
      obtain ⟨ops, hops⟩ := ih fun d hd => h d (by simp [hd])
      exact ⟨op :: ops, .cons hop hops⟩

/-- Each operation stems from a command. -/
theorem exists_of_mem_means {commands : List Command} {ops : List Operation}
    (h : List.Forall₂ Means commands ops) {op : Operation} (hop : op ∈ ops) :
    ∃ c ∈ commands, c.Means op := by
  induction h with
  | nil => simp at hop
  | @cons c op' rest ops' hc _ ih =>
      rcases List.mem_cons.mp hop with rfl | hop
      · exact ⟨c, by simp, hc⟩
      · obtain ⟨d, hd, hmeans⟩ := ih hop
        exact ⟨d, by simp [hd], hmeans⟩

/-- The place in the script does not matter. -/
theorem Means.of_words {c d : Command} {op : Operation} (h : c.Means op)
    (hwords : c.words = d.words) : d.Means op := by
  obtain ⟨hkeyword, harguments⟩ := Prod.ext_iff.mp hwords
  unfold Means at h ⊢
  rwa [show d.keyword = c.keyword from hkeyword.symm,
    show d.arguments = c.arguments from harguments.symm]

/-- Only the keyword `reset` makes a reset. -/
theorem keyword_of_means_reset {c : Command} (h : c.Means .reset) : c.keyword = "reset" := by
  obtain ⟨keyword, args, hkey, -, -, hop⟩ := h
  have htext : keyword.text = c.keyword := by simpa using List.find?_some hkey
  have hreset : keyword = .reset := by
    unfold Keyword.operation? at hop
    split at hop <;> simp_all
  rw [← htext, hreset]
  rfl

end Command

/-- A script is accepted exactly if each of its commands means something, and gives that. -/
theorem Operation.ofScript_eq_ok_iff {script : String} {ops : List Operation} :
    Operation.ofScript script = .ok ops ↔
      List.Forall₂ Command.Means (Command.ofScript script) ops := by
  rw [Operation.ofScript, mapM_eq_ok_iff]
  simp only [Command.operation_eq_ok_iff]

end DrawingBoard

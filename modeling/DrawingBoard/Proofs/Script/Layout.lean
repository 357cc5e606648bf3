/-
How the words of a script are laid out in commands.

A script is cut three times, into lines, into the pieces of a line, and into words.  What
comes out is told by the script as a whole (`ofScript_eq_grouped`): its words are the runs
of characters that are neither blanks nor ampersands, two neighbours belong to the same
command if neither an ampersand nor a line feed stands between them, and the line of a
command is counted by the line feeds before it.

The three cuts are three inductions over parts, one inside the other, and all of them rest
on two facts.  A separator parts the runs of a text, and if it is an ampersand or a line
feed, it parts the groups as well (`grouped_append_cons`); and in a piece without either,
all runs belong together (`together_of_mem_runsFrom`).  The runs remember what stands before
them in the whole script, so the inductions carry along what has gone by.
-/
import DrawingBoard.Proofs.Text.Runs
import DrawingBoard.Script.Command
import Mathlib.Data.List.SplitBy

namespace DrawingBoard

open Text

namespace Command

/-! ### Runs and groups -/

/-- Does the character separate words? -/
def separates (c : Char) : Bool := isBlank c || c == '&'

/-- Does the character separate commands? -/
def parts (c : Char) : Bool := c == '&' || c == '\n'

/-- Do two runs of a text, of which `r'` is the later one, belong to the same command?  They do if
no character between them separates commands. -/
def together (r r' : Run Char) : Bool :=
  (r'.before.drop (r.before.length + r.word.length)).all (!parts ·)

/-- The command that a group of runs spells, on the line of the first one. -/
def ofRuns? : List (Run Char) → Option Command
  | [] => none
  | first :: rest => some {
      keyword := String.ofList first.word
      arguments := rest.map fun r => String.ofList r.word
      line := 1 + first.before.count '\n' }

/-- The commands that a text spells, if `before` stands before it. -/
def grouped (before text : List Char) : List (Option Command) :=
  ((runsFrom separates before text).splitBy together).map ofRuns?

theorem separates_of_parts {c : Char} (h : parts c = true) : separates c = true := by
  simp only [parts, Bool.or_eq_true, beq_iff_eq] at h
  rcases h with rfl | rfl <;> decide

/-- What stands between two runs of the same text is in that text. -/
theorem together_of_mem_runsFrom {before text : List Char} (h : ∀ c ∈ text, parts c = false)
    {r r' : Run Char} (hr : r ∈ runsFrom separates before text)
    (hr' : r' ∈ runsFrom separates before text) : together r r' = true := by
  obtain ⟨gone, after, hbefore, -, -⟩ := mem_runsFrom_iff.mp hr
  obtain ⟨gone', after', hbefore', rfl, -⟩ := mem_runsFrom_iff.mp hr'
  rw [together, List.all_eq_true]
  intro c hc
  have hgone : c ∈ gone' := by
    rw [hbefore', hbefore, List.length_append, Nat.add_assoc, ← List.drop_drop,
      List.drop_left] at hc
    exact List.mem_of_mem_drop hc
  simp [h c (by simp [hgone])]

/-- A run before an ampersand or a line feed and one behind it belong to different commands. -/
theorem not_together {before text rest : List Char} {s : Char} (hs : parts s = true)
    {r r' : Run Char} (hr : r ∈ runsFrom separates before text)
    (hr' : r' ∈ runsFrom separates (before ++ text ++ [s]) rest) : together r r' = false := by
  obtain ⟨gone, after, hbefore, rfl, -⟩ := mem_runsFrom_iff.mp hr
  obtain ⟨gone', after', hbefore', -, -⟩ := mem_runsFrom_iff.mp hr'
  rw [together, ← Bool.not_eq_true, List.all_eq_true]
  intro hall
  have hsplit : r'.before = (r.before ++ r.word) ++ (after ++ s :: gone') := by
    simp [hbefore, hbefore']
  have hmem : s ∈ r'.before.drop (r.before.length + r.word.length) := by
    rw [hsplit, ← List.length_append, List.drop_left]
    simp
  simpa [hs] using hall s hmem

/-- An ampersand or a line feed parts the commands before it from those behind it. -/
theorem grouped_append_cons {s : Char} (hs : parts s = true) (before text rest : List Char) :
    grouped before (text ++ s :: rest)
      = grouped before text ++ grouped (before ++ text ++ [s]) rest := by
  rw [grouped, runsFrom_append_cons (separates_of_parts hs), List.splitBy_append, List.map_append]
  · rfl
  · intro r hr r' hr'
    exact not_together hs (List.mem_of_getLast? hr) (List.mem_of_head? hr')

/-! ### Words, pieces, lines -/

/-- A piece without an ampersand or a line feed is one command, if it has a word. -/
theorem grouped_of_free {before text : List Char} (h : ∀ c ∈ text, parts c = false)
    (hbefore : ∀ c ∈ before.getLast?, separates c = true) :
    (ofWords? (1 + before.count '\n') (words isBlank text)).toList.map some
      = grouped before text := by
  have hblank : ∀ c ∈ text, isBlank c = separates c := by
    intro c hc
    have hparts := h c hc
    simp only [parts, Bool.or_eq_false_iff] at hparts
    rw [separates, hparts.1, Bool.or_false]
  have hwords : words isBlank text = (runsFrom separates before text).map (·.word) := by
    rw [words, split_congr hblank]
    exact words_eq_map_runsFrom text hbefore
  have hchain : (runsFrom separates before text).IsChain fun r r' => together r r' = true :=
    (List.pairwise_of_forall_mem_list fun r hr r' hr' => together_of_mem_runsFrom h hr hr').isChain
  rw [grouped, hwords]
  cases hruns : runsFrom separates before text with
  | nil => rfl
  | cons first rest =>
      rw [hruns] at hchain
      obtain ⟨gone, after, hfirst, htext, -⟩ :=
        mem_runsFrom_iff.mp (hruns ▸ List.mem_cons_self : first ∈ runsFrom separates before text)
      have hgone : gone.count '\n' = 0 := by
        refine List.count_eq_zero.mpr fun hmem => ?_
        have := h '\n' (by simp [htext, hmem])
        simp [parts] at this
      rw [List.splitBy_of_isChain (List.cons_ne_nil _ _) hchain]
      simp [ofWords?, ofRuns?, hfirst, hgone]

theorem ofLine_of_free {piece : List Char} (h : ∀ c ∈ piece, (c == '&') = false) (line : Nat) :
    ofLine line piece = (ofWords? line (words isBlank piece)).toList := by
  rw [ofLine, split_of_free h]
  cases hwords : ofWords? line (words isBlank piece) <;> simp [hwords]

theorem ofLine_append_cons {piece : List Char} (h : ∀ c ∈ piece, (c == '&') = false) (line : Nat)
    (rest : List Char) :
    ofLine line (piece ++ '&' :: rest) = ofLine line piece ++ ofLine line rest := by
  rw [ofLine, ofLine, ofLine, split_append_cons h rfl, split_of_free h, ← List.filterMap_append]
  rfl

/-- A line spells the commands of its pieces. -/
theorem ofLine_eq_grouped {text : List Char} (h : ∀ c ∈ text, (c == '\n') = false) :
    ∀ before : List Char, (∀ c ∈ before.getLast?, separates c = true) →
      (ofLine (1 + before.count '\n') text).map some = grouped before text := by
  -- A piece has no ampersand, and the line has no line feed.
  have hfree : ∀ piece : List Char, (∀ c ∈ piece, (c == '&') = false) →
      (∀ c ∈ piece, (c == '\n') = false) → ∀ c ∈ piece, parts c = false :=
    fun piece hamp hfeed c hc => by rw [parts, hamp c hc, hfeed c hc]; rfl
  induction text using parts_induction (· == '&') with
  | free text hamp =>
      intro before hbefore
      rw [ofLine_of_free hamp]
      exact grouped_of_free (hfree text hamp h) hbefore
  | cut piece s rest hamp hs ih =>
      intro before hbefore
      obtain rfl : s = '&' := by simpa using hs
      obtain ⟨hpiece, hrest⟩ := List.forall_mem_append.mp h
      have hcount : (before ++ piece ++ ['&']).count '\n' = before.count '\n' := by
        have hnone : '\n' ∉ piece := fun hmem => by simpa using hpiece _ hmem
        simp [List.count_eq_zero.mpr hnone]
      have hlater := ih (List.forall_mem_cons.mp hrest).2 (before ++ piece ++ ['&'])
        (by simp [separates])
      rw [hcount] at hlater
      rw [ofLine_append_cons hamp, ofLine_of_free hamp, List.map_append, hlater,
        grouped_of_free (hfree piece hamp hpiece) hbefore, grouped_append_cons rfl]

/-- **A script spells the commands of its groups of runs.** -/
theorem ofScript_eq_grouped (script : String) :
    (ofScript script).map some = grouped [] script.toList := by
  have hlines : ∀ text before : List Char,
      (∀ c ∈ before.getLast?, separates c = true) →
        (((split (· == '\n') text).zipIdx (1 + before.count '\n')).flatMap
          fun piece => ofLine piece.2 piece.1).map some = grouped before text := by
    intro text
    induction text using parts_induction (· == '\n') with
    | free text hfree =>
        intro before hbefore
        rw [split_of_free hfree, ← ofLine_eq_grouped hfree before hbefore]
        simp
    | cut piece s rest hpiece hs ih =>
        intro before hbefore
        obtain rfl : s = '\n' := by simpa using hs
        have hcount : (before ++ piece ++ ['\n']).count '\n' = before.count '\n' + 1 := by
          have hnone : '\n' ∉ piece := fun hmem => by simpa using hpiece _ hmem
          simp [List.count_eq_zero.mpr hnone]
        have hlater := ih (before ++ piece ++ ['\n']) (by simp [separates, isBlank])
        rw [hcount, ← Nat.add_assoc] at hlater
        rw [split_append_cons hpiece rfl, List.zipIdx_cons, List.flatMap_cons, List.map_append,
          hlater, ofLine_eq_grouped hpiece before hbefore, grouped_append_cons rfl]
  exact hlines script.toList [] (by simp)

/-! ### Blanks -/

/-- Does the change of characters put other blanks in the place of blanks, and leave everything
else as it is?  A line feed is no mere blank. -/
def Respaces (f : Char → Char) : Prop :=
  ∀ c, f c = c ∨ isBlank c = true ∧ c ≠ '\n' ∧ isBlank (f c) = true ∧ f c ≠ '\n'

theorem Respaces.beq {f : Char → Char} (h : Respaces f) {s : Char}
    (hs : isBlank s = false ∨ s = '\n') (c : Char) : (f c == s) = (c == s) := by
  rcases h c with hsame | ⟨hblank, hfeed, hblank', hfeed'⟩
  · rw [hsame]
  · rcases hs with hs | rfl
    · have hne : c ≠ s := by rintro rfl; simp [hblank] at hs
      have hne' : f c ≠ s := by rintro rfl; simp [hblank'] at hs
      rw [beq_eq_false_iff_ne.mpr hne, beq_eq_false_iff_ne.mpr hne']
    · rw [beq_eq_false_iff_ne.mpr hfeed, beq_eq_false_iff_ne.mpr hfeed']

/-- Which blanks stand between the words of a line does not matter. -/
theorem ofLine_map {f : Char → Char} (h : Respaces f) (line : Nat) (text : List Char) :
    ofLine line (text.map f) = ofLine line text := by
  have hblank : ∀ c, isBlank (f c) = isBlank c := by
    intro c
    rcases h c with hsame | ⟨hc, -, hc', -⟩
    · rw [hsame]
    · rw [hc, hc']
  have hletters : ∀ c, isBlank c = false → f c = c := by
    intro c hc
    rcases h c with hsame | ⟨hc', -⟩
    · exact hsame
    · simp [hc] at hc'
  rw [ofLine, ofLine, split_map (h.beq (.inl rfl)), List.filterMap_map]
  simp only [Function.comp_def, words_map hblank hletters]

theorem ofScript_map {f : Char → Char} (h : Respaces f) (script : String) :
    ofScript (String.ofList (script.toList.map f)) = ofScript script := by
  rw [ofScript, ofScript, String.toList_ofList, split_map (h.beq (.inr rfl)), List.zipIdx_map,
    List.flatMap_map]
  simp only [Prod.map, ofLine_map h, id]

/-! ### The layout of a script -/

theorem words_of_ofRuns? {group : List (Run Char)} {c : Command} (h : ofRuns? group = some c) :
    c.keyword :: c.arguments = group.map (String.ofList ·.word) := by
  cases group with
  | nil => cases h
  | cons first rest =>
      obtain rfl := Option.some.inj h
      rfl

/-- The groups of commands have the words of the commands. -/
theorem flatMap_words {commands : List Command} :
    ∀ {groups : List (List (Run Char))}, commands.map some = groups.map ofRuns? →
      commands.flatMap (fun c => c.keyword :: c.arguments)
        = groups.flatten.map (String.ofList ·.word) := by
  induction commands with
  | nil =>
      intro groups h
      obtain rfl := List.map_eq_nil_iff.mp h.symm
      rfl
  | cons c commands ih =>
      intro groups h
      obtain ⟨group, groups, rfl, hc, hrest⟩ := List.map_eq_cons_iff.mp h.symm
      rw [List.flatMap_cons, ih hrest.symm, words_of_ofRuns? hc, List.flatten_cons,
        List.map_append]

/-- **No word of a script is lost, invented, merged or misplaced.**  The runs of a script are
exactly its stretches of characters, neither blanks nor ampersands, that cannot be made longer, and
they are listed in the order of the script.  The commands have the words of the runs, one after the
other.  They are the groups of runs: in a group, neither an ampersand nor a line feed stands between
two neighbours, and one of them stands between a group and the next; and the line of a command is
one more than the number of line feeds before its keyword.  It does not matter which blanks, line
feeds apart, stand between the words. -/
theorem words_in_place (script : String) :
    (∀ r, r ∈ runs separates script.toList ↔
      ∃ after, script.toList = r.before ++ r.word ++ after ∧ r.Maximal separates after) ∧
    (runs separates script.toList).Pairwise (·.before.length < ·.before.length) ∧
    (ofScript script).flatMap (fun c => c.keyword :: c.arguments)
      = (runs separates script.toList).map (String.ofList ·.word) ∧
    (∃ groups : List (List (Run Char)),
      groups.flatten = runs separates script.toList ∧
      (ofScript script).map some = groups.map ofRuns? ∧
      (∀ group ∈ groups, group ≠ [] ∧ group.IsChain (together · · = true)) ∧
      groups.IsChain fun group next =>
        ∀ r ∈ group.getLast?, ∀ r' ∈ next.head?, together r r' = false) ∧
    ∀ f, Respaces f → ofScript (String.ofList (script.toList.map f)) = ofScript script := by
  have hgroups : (ofScript script).map some
      = ((runs separates script.toList).splitBy together).map ofRuns? := ofScript_eq_grouped script
  have hwords := flatMap_words hgroups
  rw [List.flatten_splitBy] at hwords
  refine ⟨fun r => mem_runs_iff, pairwise_runsFrom _ _ [], hwords,
    ⟨_, List.flatten_splitBy together _, hgroups, fun group hgroup => ?_, ?_⟩,
    fun f h => ofScript_map h script⟩
  · exact ⟨List.ne_nil_of_mem_splitBy hgroup, List.isChain_of_mem_splitBy hgroup⟩
  · refine (List.isChain_getLast_head_splitBy together _).imp ?_
    rintro group next ⟨ha, hb, hapart⟩ r hr r' hr'
    rw [List.getLast?_eq_some_getLast ha, Option.mem_some_iff] at hr
    rw [List.head?_eq_some_head hb, Option.mem_some_iff] at hr'
    rw [← hr, ← hr', hapart]

/-- A script with separators of every kind, and the change of its blanks to spaces. -/
def scattered : String := "\r\n& white\r\n\u2028move\u0085 1\r2 &&\n\nupdate"

def toSpace (c : Char) : Char := if isBlank c && c != '\n' then ' ' else c

theorem respaces_toSpace : Respaces toSpace := by
  intro c
  unfold toSpace
  split
  · rename_i h
    rw [Bool.and_eq_true, bne_iff_ne] at h
    exact .inr ⟨h.1, h.2, by decide, by decide⟩
  · exact .inl rfl

theorem words_in_place_scattered :
    Respaces toSpace ∧
      ofScript scattered = [⟨"white", [], 2⟩, ⟨"move", ["1", "2"], 3⟩, ⟨"update", [], 5⟩] ∧
      ofScript (String.ofList (scattered.toList.map toSpace)) = ofScript scattered ∧
      (runs separates scattered.toList).map (String.ofList ·.word)
        = ["white", "move", "1", "2", "update"] := by
  obtain ⟨-, -, hwords, -, hspaces⟩ := words_in_place scattered
  have hscript : ofScript scattered
      = [⟨"white", [], 2⟩, ⟨"move", ["1", "2"], 3⟩, ⟨"update", [], 5⟩] := by decide
  rw [hscript] at hwords
  exact ⟨respaces_toSpace, hscript, hspaces toSpace respaces_toSpace, hwords.symm⟩

end Command

end DrawingBoard

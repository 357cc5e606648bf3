/-
The words of a text, each in its place.

A word is a run of characters without a separator that cannot be made longer on either
side.  `runs` lists the runs of a text in their order, and each of them remembers what
stands before it, so that it is known where in the text it is (`mem_runs_iff`).

Cutting a text at separators is a recursion over its parts, and so are the proofs about
it: a text has no separator at all, or it is a part without one, a separator, and a rest
(`parts_induction`).  A separator parts the runs before it from those behind it
(`runsFrom_append_cons`), which is why the words that cutting finds are the runs
(`words_eq_map_runsFrom`).
-/
import DrawingBoard.Text.Split
import Mathlib.Data.List.TakeWhile

namespace DrawingBoard.Text

variable {α : Type} {isSeparator : α → Bool}

/-! ### The parts of a text -/

theorem split_of_free {text : List α} (h : ∀ c ∈ text, isSeparator c = false) :
    split isSeparator text = [text] := by
  induction text with
  | nil => rfl
  | cons c rest ih =>
      rw [List.forall_mem_cons] at h
      simp [split, h.1, ih h.2]

theorem split_append_cons {part : List α} (hpart : ∀ c ∈ part, isSeparator c = false) {s : α}
    (hs : isSeparator s = true) (rest : List α) :
    split isSeparator (part ++ s :: rest) = part :: split isSeparator rest := by
  induction part with
  | nil => simp [split, hs]
  | cons c part ih =>
      rw [List.forall_mem_cons] at hpart
      simp [split, hpart.1, ih hpart.2]

theorem split_congr {isSeparator' : α → Bool} {text : List α}
    (h : ∀ c ∈ text, isSeparator c = isSeparator' c) :
    split isSeparator text = split isSeparator' text := by
  induction text with
  | nil => rfl
  | cons c rest ih =>
      rw [List.forall_mem_cons] at h
      simp only [split, h.1, ih h.2]

/-- A text has no separator, or it is a part without one, a separator, and a rest. -/
theorem parts_induction (isSeparator : α → Bool) {motive : List α → Prop}
    (free : ∀ text, (∀ c ∈ text, isSeparator c = false) → motive text)
    (cut : ∀ part s rest, (∀ c ∈ part, isSeparator c = false) → isSeparator s = true →
      motive rest → motive (part ++ s :: rest))
    (text : List α) : motive text := by
  have hbehind : ∀ text part, (∀ c ∈ part, isSeparator c = false) → motive (part ++ text) := by
    intro text
    induction text with
    | nil => intro part hpart; rw [List.append_nil]; exact free part hpart
    | cons c rest ih =>
        intro part hpart
        cases hc : isSeparator c with
        | true => exact cut part c rest hpart hc (ih [] (by simp))
        | false =>
            rw [List.append_cons]
            exact ih _ (List.forall_mem_append.mpr ⟨hpart, List.forall_mem_singleton.mpr hc⟩)
  exact hbehind text [] (by simp)

theorem split_map {f : α → α} (h : ∀ c, isSeparator (f c) = isSeparator c) (text : List α) :
    split isSeparator (text.map f) = (split isSeparator text).map (List.map f) := by
  induction text using parts_induction isSeparator with
  | free text hfree =>
      have hfree' : ∀ c ∈ text.map f, isSeparator c = false :=
        List.forall_mem_map.mpr fun c hc => by rw [h, hfree c hc]
      rw [split_of_free hfree, split_of_free hfree']
      rfl
  | cut part s rest hpart hs ih =>
      have hpart' : ∀ c ∈ part.map f, isSeparator c = false :=
        List.forall_mem_map.mpr fun c hc => by rw [h, hpart c hc]
      rw [split_append_cons hpart hs, List.map_append, List.map_cons,
        split_append_cons hpart' (by rw [h, hs]), ih]
      rfl

/-- Words do not depend on which separators stand between them. -/
theorem words_map {f : α → α} (h : ∀ c, isSeparator (f c) = isSeparator c)
    (hletters : ∀ c, isSeparator c = false → f c = c) (text : List α) :
    words isSeparator (text.map f) = words isSeparator text := by
  have hsame : ∀ part : List α, (∀ c ∈ part, isSeparator c = false) → part.map f = part :=
    fun part hpart => (List.map_congr_left fun c hc => hletters c (hpart c hc)).trans part.map_id
  induction text using parts_induction isSeparator with
  | free text hfree => rw [hsame text hfree]
  | cut part s rest hpart hs ih =>
      rw [words, words] at *
      rw [List.map_append, List.map_cons, hsame part hpart, split_append_cons hpart hs,
        split_append_cons hpart (by rw [h, hs]), List.filter_cons, List.filter_cons, ih]

/-! ### Runs -/

/-- A run of characters, and what stands before it in a text. -/
structure Run (α : Type) where
  before : List α
  word : List α
deriving DecidableEq

/-- The run has no separator, and with `after` behind it there is one on either side of it, or the
text ends there. -/
structure Run.Maximal (isSeparator : α → Bool) (r : Run α) (after : List α) : Prop where
  nonempty : r.word ≠ []
  letters : ∀ c ∈ r.word, isSeparator c = false
  left : ∀ c ∈ r.before.getLast?, isSeparator c = true
  right : ∀ c ∈ after.head?, isSeparator c = true

/-- The runs that begin in a text, if `before` stands before it. -/
def runsFrom (isSeparator : α → Bool) (before : List α) : List α → List (Run α)
  | [] => []
  | c :: rest =>
    if !isSeparator c && before.getLast?.all isSeparator then
      ⟨before, (c :: rest).takeWhile (!isSeparator ·)⟩ :: runsFrom isSeparator (before ++ [c]) rest
    else runsFrom isSeparator (before ++ [c]) rest

/-- The runs of a text, in their order. -/
def runs (isSeparator : α → Bool) (text : List α) : List (Run α) := runsFrom isSeparator [] text

/-- A run begins at a letter that no letter stands before. -/
def Begins (isSeparator : α → Bool) (before : List α) (c : α) : Prop :=
  isSeparator c = false ∧ ∀ d ∈ before.getLast?, isSeparator d = true

theorem begins_iff {before : List α} {c : α} :
    (!isSeparator c && before.getLast?.all isSeparator) = true ↔ Begins isSeparator before c := by
  simp [Begins, Option.all_eq_true]

theorem mem_runsFrom_cons {r : Run α} {before rest : List α} {c : α} :
    r ∈ runsFrom isSeparator before (c :: rest) ↔
      (Begins isSeparator before c ∧ r = ⟨before, (c :: rest).takeWhile (!isSeparator ·)⟩) ∨
        r ∈ runsFrom isSeparator (before ++ [c]) rest := by
  rw [runsFrom]
  by_cases hbegins : Begins isSeparator before c
  · rw [if_pos (begins_iff.mpr hbegins), List.mem_cons, and_iff_right hbegins]
  · rw [if_neg (mt begins_iff.mp hbegins), or_iff_right fun h => hbegins h.1]

/-- What begins with a run and goes on after it. -/
theorem Run.Maximal.takeWhile_append {r : Run α} {after : List α}
    (h : r.Maximal isSeparator after) :
    (r.word ++ after).takeWhile (!isSeparator ·) = r.word := by
  have hafter : after.takeWhile (!isSeparator ·) = [] := by
    cases after with
    | nil => rfl
    | cons s rest =>
        have hs : isSeparator s = true := h.right s rfl
        simp [hs]
  rw [List.takeWhile_append_of_pos (fun c hc => by simp [h.letters c hc]), hafter, List.append_nil]

theorem maximal_takeWhile {before rest : List α} {c : α} (h : Begins isSeparator before c) :
    Run.Maximal isSeparator ⟨before, (c :: rest).takeWhile (!isSeparator ·)⟩
      ((c :: rest).dropWhile (!isSeparator ·)) where
  nonempty := by simp [h.1]
  letters := fun d hd => by simpa using List.all_eq_true.mp List.all_takeWhile d hd
  left := h.2
  right := by
    intro s hs
    have := List.head?_dropWhile_not (!isSeparator ·) (c :: rest)
    rw [hs] at this
    simpa using this

theorem mem_runsFrom_iff {r : Run α} {text : List α} :
    ∀ {before : List α}, r ∈ runsFrom isSeparator before text ↔
      ∃ gone after, r.before = before ++ gone ∧ text = gone ++ r.word ++ after ∧
        r.Maximal isSeparator after := by
  induction text with
  | nil =>
      intro before
      simp only [runsFrom, List.not_mem_nil, false_iff]
      rintro ⟨gone, after, -, htext, hmax⟩
      simp [hmax.nonempty] at htext
  | cons c rest ih =>
      intro before
      rw [mem_runsFrom_cons, ih]
      constructor
      · rintro (⟨hbegins, rfl⟩ | ⟨gone, after, hbefore, rfl, hmax⟩)
        · have htext : (c :: rest).takeWhile (!isSeparator ·)
              ++ (c :: rest).dropWhile (!isSeparator ·) = c :: rest :=
            List.takeWhile_append_dropWhile
          exact ⟨[], _, (List.append_nil _).symm, htext.symm, maximal_takeWhile hbegins⟩
        · exact ⟨c :: gone, after, by simp [hbefore], rfl, hmax⟩
      · rintro ⟨gone, after, hbefore, htext, hmax⟩
        cases gone with
        | nil =>
            rw [List.append_nil] at hbefore
            rw [List.nil_append] at htext
            refine .inl ⟨⟨?_, hbefore ▸ hmax.left⟩, ?_⟩
            · obtain ⟨d, word, hword⟩ := List.exists_cons_of_ne_nil hmax.nonempty
              rw [hword, List.cons_append] at htext
              obtain rfl := (List.cons.inj htext).1
              exact hmax.letters c (by simp [hword])
            · rw [htext, hmax.takeWhile_append, ← hbefore]
        | cons d gone =>
            obtain ⟨rfl, rfl⟩ := List.cons.inj htext
            exact .inr ⟨gone, after, by simp [hbefore], rfl, hmax⟩

theorem mem_runs_iff {r : Run α} {text : List α} :
    r ∈ runs isSeparator text ↔
      ∃ after, text = r.before ++ r.word ++ after ∧ r.Maximal isSeparator after := by
  simp only [runs, mem_runsFrom_iff, List.nil_append]
  constructor
  · rintro ⟨gone, after, rfl, htext, hmax⟩
    exact ⟨after, htext, hmax⟩
  · rintro ⟨after, htext, hmax⟩
    exact ⟨r.before, after, rfl, htext, hmax⟩

theorem pairwise_runsFrom (isSeparator : α → Bool) (text : List α) :
    ∀ before, (runsFrom isSeparator before text).Pairwise
      fun r r' => r.before.length < r'.before.length := by
  induction text with
  | nil => intro before; exact .nil
  | cons c rest ih =>
      intro before
      unfold runsFrom
      split
      · refine List.pairwise_cons.mpr ⟨fun r hr => ?_, ih _⟩
        obtain ⟨gone, -, hbefore, -⟩ := mem_runsFrom_iff.mp hr
        simp only [hbefore, List.length_append, List.length_singleton]
        omega
      · exact ih _

/-- A separator parts the runs before it from those behind it. -/
theorem runsFrom_append_cons {s : α} (hs : isSeparator s = true) (text rest : List α) :
    ∀ before, runsFrom isSeparator before (text ++ s :: rest)
      = runsFrom isSeparator before text ++ runsFrom isSeparator (before ++ text ++ [s]) rest := by
  induction text with
  | nil => intro before; simp [runsFrom, hs]
  | cons c text ih =>
      intro before
      have htake : (c :: (text ++ s :: rest)).takeWhile (!isSeparator ·)
          = (c :: text).takeWhile (!isSeparator ·) := by
        rw [← List.cons_append, List.takeWhile_append]
        split
        · rename_i hall
          rw [(List.takeWhile_prefix _).eq_of_length hall,
            List.takeWhile_cons_of_neg (by simp [hs]), List.append_nil]
        · rfl
      have hrest := ih (before ++ [c])
      rw [← List.append_cons] at hrest
      rw [List.cons_append, runsFrom, runsFrom, htake, hrest]
      split <;> rfl

/-- Behind a letter, no run begins before the next separator. -/
theorem runsFrom_of_letters {text : List α} (h : ∀ c ∈ text, isSeparator c = false) :
    ∀ {before : List α}, (∃ c ∈ before.getLast?, isSeparator c = false) →
      runsFrom isSeparator before text = [] := by
  induction text with
  | nil => intro before _; rfl
  | cons c rest ih =>
      rintro before ⟨d, hd, hletter⟩
      rw [List.forall_mem_cons] at h
      have hnot : ¬ Begins isSeparator before c := fun hbegins => by
        simp [hbegins.2 d hd] at hletter
      rw [runsFrom, if_neg (mt begins_iff.mp hnot)]
      exact ih h.2 ⟨c, by simp, h.1⟩

/-- A part without a separator is one run, unless it is empty. -/
theorem words_of_free {part before : List α} (hpart : ∀ c ∈ part, isSeparator c = false)
    (hbefore : ∀ c ∈ before.getLast?, isSeparator c = true) :
    [part].filter (!·.isEmpty) = (runsFrom isSeparator before part).map (·.word) := by
  cases part with
  | nil => rfl
  | cons c rest =>
      have hbegins : Begins isSeparator before c := ⟨hpart c (by simp), hbefore⟩
      have hrest : runsFrom isSeparator (before ++ [c]) rest = [] :=
        runsFrom_of_letters (fun d hd => hpart d (by simp [hd])) ⟨c, by simp, hbegins.1⟩
      have hword : (c :: rest).takeWhile (!isSeparator ·) = c :: rest := by
        rw [List.takeWhile_eq_self_iff]
        exact fun d hd => by simp [hpart d hd]
      rw [runsFrom, if_pos (begins_iff.mpr hbegins), hrest, hword]
      rfl

/-- **The words of a text are its runs.**  The text may stand behind another one, if it does not
go on with the last run of that. -/
theorem words_eq_map_runsFrom (text : List α) :
    ∀ {before : List α}, (∀ c ∈ before.getLast?, isSeparator c = true) →
      words isSeparator text = (runsFrom isSeparator before text).map (·.word) := by
  induction text using parts_induction isSeparator with
  | free text hfree =>
      intro before hbefore
      rw [words, split_of_free hfree, words_of_free hfree hbefore]
  | cut part s rest hpart hs ih =>
      intro before hbefore
      have hrest : words isSeparator rest
          = (runsFrom isSeparator (before ++ part ++ [s]) rest).map (·.word) :=
        ih (by simpa using hs)
      rw [words, split_append_cons hpart hs, ← List.singleton_append, List.filter_append,
        words_of_free hpart hbefore, runsFrom_append_cons hs, List.map_append, ← hrest]
      rfl

end DrawingBoard.Text

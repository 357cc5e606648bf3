/-
Cutting a text at separators.

The separators themselves are dropped.  Between two neighbouring separators, and
before the first or after the last, lies an empty part; `words` leaves such parts
out.
-/

namespace DrawingBoard.Text

variable {α : Type}

/-- The parts of a sequence between the separators, of which there is always one more than
there are separators. -/
def split (isSeparator : α → Bool) : List α → List (List α)
  | [] => [[]]
  | c :: rest =>
    if isSeparator c then [] :: split isSeparator rest
    else (split isSeparator rest).modifyHead (c :: ·)

/-- The parts that are not empty. -/
def words (isSeparator : α → Bool) (text : List α) : List (List α) :=
  (split isSeparator text).filter (!·.isEmpty)

/-- The part before the first separator, and the part after it if there is a separator. -/
def splitFirst (isSeparator : α → Bool) (text : List α) : List α × Option (List α) :=
  let before := text.takeWhile (!isSeparator ·)
  match text.drop before.length with
  | [] => (before, none)
  | _ :: after => (before, some after)

end DrawingBoard.Text

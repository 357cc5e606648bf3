/-
Numerals: the decimal notation of floating-point numbers.

    numeral  ::= [sign] ( magnitude | "inf" | "infinity" | "nan" )
    magnitude ::= digits [ "." [digits] ] [exponent]  |  "." digits [exponent]
    exponent ::= ( "e" | "E" ) [sign] digits
    sign     ::= "+" | "-"

The three names are read in upper and lower case alike.  A numeral stands for the
floating-point number nearest to its exact value, and of two that are equally
near for the even one; values beyond the largest number become infinite.
-/

namespace DrawingBoard.Numeral

/-- Takes a sign off the front: is it a minus, and what follows? -/
def sign : List Char → Bool × List Char
  | '-' :: rest => (true, rest)
  | '+' :: rest => (false, rest)
  | text => (false, text)

/-- Takes the digits off the front. -/
def digits (text : List Char) : List Char × List Char :=
  (text.takeWhile Char.isDigit, text.dropWhile Char.isDigit)

/-- The number that a digit stands for. -/
def digitValue (c : Char) : Nat := c.toNat - '0'.toNat

/-- The number that a sequence of digits stands for. -/
def value (ds : List Char) : Nat := ds.foldl (fun n c => 10 * n + digitValue c) 0

/-- The size of an exponent.  Once it has reached `2 ^ 16`, further digits do not count. -/
def exponentSize (ds : List Char) : Nat :=
  ds.foldl (fun n c => if n < 65536 then 10 * n + digitValue c else n) 0

/-- Reads an exponent, which has to be the rest of the text; no text at all is the exponent
zero. -/
def exponent? : List Char → Option Int
  | [] => some 0
  | c :: rest =>
    if c = 'e' ∨ c = 'E' then
      let (negative, rest) := sign rest
      let (ds, rest) := digits rest
      if ds.isEmpty || !rest.isEmpty then none
      else some (if negative then -(exponentSize ds : Int) else exponentSize ds)
    else none

/-- The floating-point number nearest to `m * 10 ^ e`. -/
def scaled (m : Nat) (e : Int) : Float := Float.ofScientific m (decide (e < 0)) e.natAbs

/-- Reads a magnitude: digits, of which some may stand after a point, and an exponent. -/
def magnitude? (text : List Char) : Option Float :=
  let (whole, rest) := digits text
  let (fraction, rest) := match rest with
    | '.' :: rest => digits rest
    | rest => ([], rest)
  if whole.isEmpty && fraction.isEmpty then none
  else (exponent? rest).map fun e => scaled (value (whole ++ fraction)) (e - fraction.length)

def infinity : Float := 1 / 0

/-- The value that is no number. -/
def nonNumber : Float := 0 / 0

/-- Reads one of the names, in upper or lower case. -/
def name? (text : List Char) : Option Float :=
  match String.ofList (text.map Char.toLower) with
  | "inf" | "infinity" => some infinity
  | "nan" => some nonNumber
  | _ => none

def read? (text : String) : Option Float :=
  let (negative, rest) := sign text.toList
  (magnitude? rest <|> name? rest).map fun x => if negative then -x else x

end DrawingBoard.Numeral

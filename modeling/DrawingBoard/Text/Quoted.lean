/-
Quoted text, as messages show the words of a client.

A text stands between double quotes.  A double quote or a backslash inside it is
written with a backslash before it, and so are four controls by their letters.
Every other character that shows no mark of its own is written by its number, so
that a message always tells what was sent.
-/
import DrawingBoard.Text.Visible

namespace DrawingBoard.Text

/-- A character by its number in hexadecimal digits, without leading zeros. -/
def byNumber (c : Char) : List Char :=
  ['\\', 'u', '{'] ++ Nat.toDigits 16 c.toNat ++ ['}']

/-- How a character is written inside quotes. -/
def escape (c : Char) : List Char :=
  match c with
  | '\x22' => ['\\', '\x22']
  | '\\' => ['\\', '\\']
  | '\x00' => ['\\', '0']
  | '\t' => ['\\', 't']
  | '\n' => ['\\', 'n']
  | '\r' => ['\\', 'r']
  | _ => if isVisible c then [c] else byNumber c

/-- A text between double quotes. -/
def quote (text : String) : String :=
  String.ofList (['\x22'] ++ text.toList.flatMap escape ++ ['\x22'])

end DrawingBoard.Text

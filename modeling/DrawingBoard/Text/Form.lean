/-
Form fields, as the query of a web address carries them.

Fields stand between ampersands, and the first equals sign of a field parts its
name from its value.  In both a plus sign stands for a space, and a percent sign
with two hexadecimal digits for a byte; the plus signs are replaced first, so an
encoded plus sign survives.  A percent sign without two digits stands for itself.
-/
import DrawingBoard.Text.Split
import DrawingBoard.Text.Utf8

namespace DrawingBoard.Form

/-- The value of a hexadecimal digit. -/
def hexDigit? (byte : UInt8) : Option UInt8 :=
  if 0x30 ≤ byte && byte ≤ 0x39 then some (byte - 0x30)
  else if 0x41 ≤ byte && byte ≤ 0x46 then some (byte - 0x41 + 10)
  else if 0x61 ≤ byte && byte ≤ 0x66 then some (byte - 0x61 + 10)
  else none

/-- Replaces percent signs with two digits by the bytes they stand for. -/
def percentDecode : List UInt8 → List UInt8
  | [] => []
  | 0x25 :: high :: low :: rest =>
    match hexDigit? high, hexDigit? low with
    | some h, some l => (16 * h + l) :: percentDecode rest
    | _, _ => 0x25 :: percentDecode (high :: low :: rest)
  | byte :: rest => byte :: percentDecode rest

/-- The text of a name or a value. -/
def component (bytes : List UInt8) : String :=
  Utf8.decodeLenient (percentDecode (bytes.map fun b => if b == 0x2b then 0x20 else b))

/-- One field: its name and its value, which is empty if there is no equals sign. -/
def field (bytes : List UInt8) : String × String :=
  let (name, value) := Text.splitFirst (· == 0x3d) bytes
  (component name, component (value.getD []))

/-- The fields of a query in their order; empty fields are passed over. -/
def fields (query : String) : List (String × String) :=
  (Text.words (· == 0x26) (Utf8.encode query)).map field

def valuesOf (name : String) (query : String) : List String :=
  ((fields query).filter (·.1 == name)).map (·.2)

end DrawingBoard.Form

/-
Bytes as text.

Bytes are read from the front.  Where they do not go on as the encoding demands,
the part that went well so far counts as one malformed piece, and reading starts
anew at the byte that did not fit.  `decode` gives the characters with a gap for
each malformed piece; a strict reader refuses gaps, a lenient one shows each as
U+FFFD.
-/

namespace DrawingBoard.Utf8

/-- A character that has begun. -/
structure Begun where
  bits : Nat
  /-- How many bytes are missing. -/
  missing : Nat
  /-- The least value that the next byte may have. -/
  least : Nat := 0x80
  /-- The greatest value that the next byte may have. -/
  greatest : Nat := 0xbf

/-- What a byte at the start of a character says. -/
inductive Lead where
  /-- The byte is a character. -/
  | whole (c : Char)
  /-- The character goes on. -/
  | begun (b : Begun)
  /-- No character starts with this byte. -/
  | malformed

/-- Reads the first byte of a character.  The range of the second byte rules out overlong
forms, surrogates, and numbers beyond the last character. -/
def lead (byte : UInt8) : Lead :=
  let n := byte.toNat
  if n < 0x80 then .whole (Char.ofNat n)
  else if 0xc2 ≤ n ∧ n ≤ 0xdf then .begun { bits := n - 0xc0, missing := 1 }
  else if n = 0xe0 then .begun { bits := 0, missing := 2, least := 0xa0 }
  else if n = 0xed then .begun { bits := 0xd, missing := 2, greatest := 0x9f }
  else if 0xe1 ≤ n ∧ n ≤ 0xef then .begun { bits := n - 0xe0, missing := 2 }
  else if n = 0xf0 then .begun { bits := 0, missing := 3, least := 0x90 }
  else if n = 0xf4 then .begun { bits := 4, missing := 3, greatest := 0x8f }
  else if 0xf1 ≤ n ∧ n ≤ 0xf3 then .begun { bits := n - 0xf0, missing := 3 }
  else .malformed

/-- Reads a byte where a character starts: what is complete now, and what has begun. -/
def start (byte : UInt8) : List (Option Char) × Option Begun :=
  match lead byte with
  | .whole c => ([some c], none)
  | .begun b => ([], some b)
  | .malformed => ([none], none)

/-- Reads a byte, perhaps in the middle of a character. -/
def feed (begun : Option Begun) (byte : UInt8) : List (Option Char) × Option Begun :=
  match begun with
  | none => start byte
  | some b =>
    if b.least ≤ byte.toNat ∧ byte.toNat ≤ b.greatest then
      let bits := 64 * b.bits + (byte.toNat - 0x80)
      if b.missing ≤ 1 then ([some (Char.ofNat bits)], none)
      else ([], some { bits, missing := b.missing - 1 })
    else
      let (complete, begun) := start byte
      (none :: complete, begun)

/-- Reads on to the end, perhaps from the middle of a character. -/
def decodeFrom (begun : Option Begun) : List UInt8 → List (Option Char)
  | [] => if begun.isSome then [none] else []
  | byte :: rest =>
    let (complete, begun) := feed begun byte
    complete ++ decodeFrom begun rest

/-- The characters that the bytes encode, with a gap for each malformed piece. -/
def decode (bytes : List UInt8) : List (Option Char) := decodeFrom none bytes

/-- The text that the bytes encode, if no piece is malformed. -/
def decode? (bytes : List UInt8) : Option String :=
  ((decode bytes).mapM id).map String.ofList

/-- The text that the bytes encode, with U+FFFD for each malformed piece. -/
def decodeLenient (bytes : List UInt8) : String :=
  String.ofList ((decode bytes).map (·.getD '\uFFFD'))

def encode (text : String) : List UInt8 := text.toUTF8.toList

end DrawingBoard.Utf8

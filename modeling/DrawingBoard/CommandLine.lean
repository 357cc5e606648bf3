/-
The command line: how the board is to be opened.

    --width N    width of the frames in pixels
    --height N   height of the frames in pixels
    --blank      open an empty board

A value stands in the next word, or in the same word behind an equals sign.  A word
that starts with a dash is not taken for the value of the option before it, unless
it is the dash alone.  No option may be given twice.

A value in a word of its own is looked at when the next option comes, or when there
are no more words.  So if a word that is no option follows it, that word is what is
complained about, whatever the value is.
-/
import DrawingBoard.Geometry.Size
import DrawingBoard.Text.Numeral
import DrawingBoard.Text.Split

namespace DrawingBoard

structure Options where
  frameSize : Size := default
  blank : Bool := false
deriving DecidableEq

inductive OptionError where
  | unknown (word : String)
  | repeated (option : String)
  | missingValue (option : String)
  /-- A value for an option that has none. -/
  | unexpectedValue (option value : String)
  /-- The value is not a side of a frame. -/
  | invalidValue (option value : String)
deriving DecidableEq

def OptionError.message : OptionError → String
  | .unknown word => s!"unexpected argument {word}"
  | .repeated option => s!"{option} cannot be used multiple times"
  | .missingValue option => s!"a value is required for {option}"
  | .unexpectedValue option value => s!"unexpected value {value} for {option}"
  | .invalidValue option value => s!"invalid value {value} for {option}"

/-- A side of the frames, which an option with a value sets. -/
inductive Side where
  | width
  | height
deriving DecidableEq

namespace Side

def option : Side → String
  | width => "--width"
  | height => "--height"

def ofOption? (name : String) : Option Side := [width, height].find? (·.option == name)

/-- Sets a side of a size. -/
def set (side : Side) (pixels : UInt32) (size : Size) : Size :=
  match side with
  | width => { size with width := pixels }
  | height => { size with height := pixels }

/-- The length of a side in decimal digits, before which a sign may stand. -/
def pixels? (text : String) : Option UInt32 :=
  let (negative, ds) := Numeral.sign text.toList
  if ds.isEmpty || ds.any (!·.isDigit) then none
  else
    let n := Numeral.value ds
    if n < UInt32.size && !(negative && n != 0) then some n.toUInt32 else none

end Side

/-- The options that were read so far. -/
structure OptionReader where
  options : Options := {}
  /-- The names of the options that count so far. -/
  given : List String := []
  /-- The side that was asked for last and is not set yet, with the word that is its value if
  that has come. -/
  pending : Option (Side × Option String) := none

namespace OptionReader

/-- Counts an option, which may be done once. -/
def count (r : OptionReader) (option : String) : Except OptionError OptionReader :=
  if r.given.contains option then .error (.repeated option)
  else .ok { r with given := option :: r.given }

def setSide (r : OptionReader) (side : Side) : Option String → Except OptionError OptionReader
  | none => .error (.missingValue side.option)
  | some value => do
    let r ← r.count side.option
    match Side.pixels? value with
    | some pixels => return { r with options.frameSize := side.set pixels r.options.frameSize }
    | none => throw (.invalidValue side.option value)

/-- Sets the side that was asked for last, if it is not set yet. -/
def settle (r : OptionReader) : Except OptionError OptionReader :=
  match r.pending with
  | some (side, value) => { r with pending := none }.setSide side value
  | none => .ok r

/-- Reads a word that has to be an option. -/
def readOption (r : OptionReader) (word : String) : Except OptionError OptionReader :=
  let (name, value) := Text.splitFirst (· == '=') word.toList
  let name := String.ofList name
  let value := value.map String.ofList
  if name = "--blank" then
    match value with
    | some value => .error (.unexpectedValue name value)
    | none => do
      let r ← (← r.settle).count name
      return { r with options.blank := true }
  else
    match Side.ofOption? name with
    | some side => do
      let r ← r.settle
      match value with
      | some _ => r.setSide side value
      | none => return { r with pending := some (side, none) }
    | none => .error (.unknown word)

/-- Reads the next word: the value that is waited for, or an option. -/
def readWord (r : OptionReader) (word : String) : Except OptionError OptionReader :=
  match r.pending with
  | some (side, none) =>
    if word.startsWith "-" && word != "-" then r.readOption word
    else .ok { r with pending := some (side, some word) }
  | _ => r.readOption word

end OptionReader

def Options.read (words : List String) : Except OptionError Options := do
  let r ← words.foldlM OptionReader.readWord {}
  return (← r.settle).options

end DrawingBoard

import ScriptBindings.Text.Utf8

/-!
# Grids of characters

The character sets of East Asia are laid out in rows of equal length, and an encoding makes the
bytes of a character from its row and its place in the row. A grid is given by bands, each a stretch
of characters without a gap; the sets themselves are in the modules below this one.
-/

namespace ScriptBindings.Text

/-- A place in a grid: a row, and a column counted from one. -/
structure Cell where
  row : Nat
  column : Nat
  deriving DecidableEq, Repr

/-- The bytes of a cell of 94 rows and columns, in the range of the visible ASCII characters. -/
def Cell.low (p : Cell) : Bytes :=
  [UInt8.ofNat (0x20 + p.row), UInt8.ofNat (0x20 + p.column)]

/-- The bytes of a cell of 94 rows and columns, each with its highest bit set. -/
def Cell.high (p : Cell) : Bytes :=
  [UInt8.ofNat (0xA0 + p.row), UInt8.ofNat (0xA0 + p.column)]

/-- A stretch of characters that begins in some cell and goes on row by row. Its lines count as one
text, and a space in it stands for a cell without a character. -/
structure Band where
  row : Nat
  column : Nat
  lines : List String
  deriving DecidableEq, Repr

/-- Characters in rows of `width`. -/
structure Grid where
  width : Nat
  bands : List Band
  deriving DecidableEq, Repr

/-- The characters of a band in order. -/
def Band.chars (b : Band) : List Char :=
  b.lines.flatMap String.toList

/-- The cell of the character that many places after the beginning of a band. -/
def Band.cellAt (width : Nat) (b : Band) (n : Nat) : Cell :=
  ⟨b.row + (b.column - 1 + n) / width, (b.column - 1 + n) % width + 1⟩

namespace Grid

/-- Every character of a grid. -/
def chars (g : Grid) : List Char :=
  g.bands.flatMap Band.chars

/-- The cell of a character. -/
def cell? (g : Grid) (c : Char) : Option Cell :=
  if c = ' ' then none
  else g.bands.findSome? fun b => (b.chars.idxOf? c).map (b.cellAt g.width)

end Grid

end ScriptBindings.Text

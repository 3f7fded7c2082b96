import ScriptBindings.Text.Grid.JisX0208
import ScriptBindings.Text.Grid.JisX0212
import ScriptBindings.Text.Grid.JisX0213
import ScriptBindings.Text.Grid.WindowsJapanese
import ScriptBindings.Text.Spelling

/-!
# Japanese encodings

The bytes of Japanese characters where no escape sequences are used: the ones of the extended Unix
code, with the highest bit of a row and a column set, and the shifted ones, where two rows share a
first byte.
-/

namespace ScriptBindings.Text.Japanese

/-- The byte of a katakana of half width. -/
def narrowKatakana? (c : Char) : Option UInt8 :=
  if '\uFF61' ≤ c ∧ c ≤ '\uFF9F' then some (UInt8.ofNat (c.toNat - 0xFEC0)) else none

/-- The byte of a character that the Japanese variant of ASCII has in the place of another. -/
def roman? : Char → Option Bytes
  | '¥' => some [0x5C]
  | '‾' => some [0x7E]
  | _ => none

/-- The shifted bytes of a cell. Rows may go on beyond 94, and no second byte is that of a delete
character. -/
def shifted (p : Cell) : Bytes :=
  let first := (p.row - 1) / 2
  let second := p.column - 1 + (p.row - 1) % 2 * 94
  [UInt8.ofNat (first + if first < 31 then 0x81 else 0xC1),
   UInt8.ofNat (second + if second < 63 then 0x40 else 0x41)]

/-! ## JIS X 0213 -/

/-- An edition of JIS X 0213, named by its year. -/
inductive Edition where
  | of2000
  | of2004
  deriving DecidableEq, Repr

/-- The characters that came with the edition of 2004. -/
def addedLater : List Char :=
  ['俱', '剝', '吞', '噓', '姸', '屛', '幷', '瘦', '繫', '𠮟', '鬜']

/-- The character whose cell an edition gives to a character, if it has it. -/
def edited? (e : Edition) (c : Char) : Option Char :=
  match e with
  | .of2004 => some c
  | .of2000 => if c = '鬝' then some '鬜' else if c ∈ addedLater then none else some c

/-- The cell of a character that an edition has on its first plane beyond JIS X 0208. -/
def firstPlane? (e : Edition) (c : Char) : Option Cell :=
  (edited? e c).bind Grid.jisX0213First.cell?

/-- The cell of a character that an edition has on its second plane. -/
def secondPlane? (e : Edition) (c : Char) : Option Cell :=
  (edited? e c).bind Grid.jisX0213Second.cell?

/-- The cells of the first plane that hold a character with a mark behind it. -/
def markedCells : List ((Char × Char) × Cell) :=
  [(('か', '\u309A'), ⟨4, 87⟩), (('き', '\u309A'), ⟨4, 88⟩), (('く', '\u309A'), ⟨4, 89⟩),
   (('け', '\u309A'), ⟨4, 90⟩), (('こ', '\u309A'), ⟨4, 91⟩), (('カ', '\u309A'), ⟨5, 87⟩),
   (('キ', '\u309A'), ⟨5, 88⟩), (('ク', '\u309A'), ⟨5, 89⟩), (('ケ', '\u309A'), ⟨5, 90⟩),
   (('コ', '\u309A'), ⟨5, 91⟩), (('セ', '\u309A'), ⟨5, 92⟩), (('ツ', '\u309A'), ⟨5, 93⟩),
   (('ト', '\u309A'), ⟨5, 94⟩), (('ㇷ', '\u309A'), ⟨6, 88⟩), (('æ', '\u0300'), ⟨11, 36⟩),
   (('ɔ', '\u0300'), ⟨11, 40⟩), (('ɔ', '\u0301'), ⟨11, 41⟩), (('ʌ', '\u0300'), ⟨11, 42⟩),
   (('ʌ', '\u0301'), ⟨11, 43⟩), (('ə', '\u0300'), ⟨11, 44⟩), (('ə', '\u0301'), ⟨11, 45⟩),
   (('ɚ', '\u0300'), ⟨11, 46⟩), (('ɚ', '\u0301'), ⟨11, 47⟩), (('\u02E9', '\u02E5'), ⟨11, 69⟩),
   (('\u02E5', '\u02E9'), ⟨11, 70⟩)]

/-- The cell of a character together with the mark behind it. Of the mark, the low 16 bits count. -/
def marked? (c mark : Char) : Option Cell :=
  markedCells.lookup (c, Char.ofNat (mark.toNat % 0x10000))

/-- The row behind the 94 of the first plane that the shifted encoding gives to a row of the second
plane. -/
def rowBehind (row : Nat) : Nat :=
  95 + ([1, 8, 3, 4, 5, 12, 13, 14, 15] ++ List.range' 78 17).idxOf row

/-! ## Encodings -/

/-- The bytes of a character in the extended Unix code. -/
def unix? (c : Char) : Option Bytes :=
  asciiBytes? c <|> roman? c <|> (narrowKatakana? c).map (fun b => [0x8E, b])
    <|> (Grid.jisX0208.cell? c).map Cell.high
    <|> (Grid.jisX0212.cell? c).map fun p => 0x8F :: p.high

/-- The bytes of a character in the shifted encoding. -/
def shift? (c : Char) : Option Bytes :=
  asciiBytes? c <|> roman? c <|> (narrowKatakana? c).map (fun b => [b])
    <|> (Grid.jisX0208.cell? c).map shifted

/-- The byte of a character that only the code page of Windows has. -/
def windowsByte? : Char → Option Bytes
  | '\x80' => some [0x80]
  | '\uF8F0' => some [0xA0]
  | '\uF8F1' => some [0xFD]
  | '\uF8F2' => some [0xFE]
  | '\uF8F3' => some [0xFF]
  | _ => none

/-- The cell of a character of private use, from row 95 on. -/
def privateCell? (c : Char) : Option Cell :=
  let n := c.toNat - 0xE000
  if 0xE000 ≤ c.toNat ∧ n < 20 * 94 then some ⟨95 + n / 94, n % 94 + 1⟩ else none

/-- The bytes of a character in the Japanese code page of Windows. -/
def windows? (c : Char) : Option Bytes :=
  asciiBytes? c <|> windowsByte? c <|> (narrowKatakana? c).map (fun b => [b])
    <|> (Grid.windowsJapanese.cell? c <|> Grid.jisX0208.cell? c <|> privateCell? c).map shifted

/-- The bytes of a character in the extended Unix code with JIS X 0213. -/
def unixX0213? (e : Edition) (c : Char) : Option Bytes :=
  asciiBytes? c <|> (narrowKatakana? c).map (fun b => [0x8E, b])
    <|> (Grid.jisX0208.cell? c <|> firstPlane? e c).map Cell.high
    <|> (secondPlane? e c).map (fun p => 0x8F :: p.high)
    <|> if c = '～' then some [0xA2, 0xB2]
        else ((edited? e c).bind Grid.jisX0212.cell?).map fun p => 0x8F :: p.high

/-- The bytes of a character in the shifted encoding with JIS X 0213, where two characters of ASCII
have given their bytes away. -/
def shiftX0213? (e : Edition) (c : Char) : Option Bytes :=
  match c with
  | '\\' => some [0x81, 0x5F]
  | '~' => some [0x81, 0xB0]
  | '＼' => none
  | _ =>
    asciiBytes? c <|> roman? c <|> (narrowKatakana? c).map (fun b => [b])
      <|> (Grid.jisX0208.cell? c <|> firstPlane? e c).map shifted
      <|> (secondPlane? e c).map fun p => shifted { p with row := rowBehind p.row }

end ScriptBindings.Text.Japanese

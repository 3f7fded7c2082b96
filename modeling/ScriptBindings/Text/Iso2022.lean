import ScriptBindings.Text.Chinese
import ScriptBindings.Text.Japanese
import ScriptBindings.Text.Korean

/-!
# Escape sequences between character sets

Text of seven-bit bytes that names the character set of what follows by an escape sequence. The
Japanese encodings take the first set that has a character; the Korean one names its only set once
and then shifts in and out of it.
-/

namespace ScriptBindings.Text.Iso2022

/-! ## Character sets -/

/-- A character set that an escape sequence names. -/
inductive CodeSet where
  | ascii
  | roman
  | katakana
  | jisX0208
  | jisX0212
  | jisX0213First (e : Japanese.Edition)
  | jisX0213Second (e : Japanese.Edition)
  | gb2312
  | ksX1001
  deriving DecidableEq, Repr

namespace CodeSet

/-- The escape sequence that names a set. -/
def escape : CodeSet → Bytes
  | ascii => [0x1B, 0x28, 0x42]
  | roman => [0x1B, 0x28, 0x4A]
  | katakana => [0x1B, 0x28, 0x49]
  | jisX0208 => [0x1B, 0x24, 0x42]
  | jisX0212 => [0x1B, 0x24, 0x28, 0x44]
  | jisX0213First .of2000 => [0x1B, 0x24, 0x28, 0x4F]
  | jisX0213First .of2004 => [0x1B, 0x24, 0x28, 0x51]
  | jisX0213Second _ => [0x1B, 0x24, 0x28, 0x50]
  | gb2312 => [0x1B, 0x24, 0x28, 0x41]
  | ksX1001 => [0x1B, 0x24, 0x28, 0x43]

/-- The bytes of a character in a set. -/
def spell? (set : CodeSet) (c : Char) : Option Bytes :=
  match set with
  | ascii => asciiBytes? c
  | roman => Japanese.roman? c
  | katakana => (Japanese.narrowKatakana? c).map fun b => [b - 0x80]
  | jisX0208 => (Grid.jisX0208.cell? c).map Cell.low
  | jisX0212 => (Grid.jisX0212.cell? c).map Cell.low
  | jisX0213First e => (Japanese.firstPlane? e c).map Cell.low
  | jisX0213Second e => (Japanese.secondPlane? e c).map Cell.low
  | gb2312 => (Grid.gb2312.cell? c).map Cell.low
  | ksX1001 => (Grid.ksX1001.cell? c).map Cell.low

/-- The bytes of a character and a mark that a set has as one. -/
def spellPair? (set : CodeSet) (c mark : Char) : Option Bytes :=
  match set with
  | jisX0213First _ => (Japanese.marked? c mark).map Cell.low
  | _ => none

end CodeSet

/-- The first set that spells something, with its bytes. -/
def firstSpelling? (sets : List CodeSet) (spell? : CodeSet → Option Bytes) :
    Option (CodeSet × Bytes) :=
  sets.findSome? fun set => (spell? set).map (set, ·)

/-! ## Japanese texts -/

/-- What stands between bytes of one set and those of another. -/
def switch (current next : CodeSet) : Bytes :=
  if current = next then [] else next.escape

/-- The bytes of a text after bytes of the set `current`. Every text ends in ASCII. -/
def write (sets : List CodeSet) : (current : CodeSet) → List Char → Option Bytes
  | current, [] => some (switch current .ascii)
  | current, [c] => do
    let (set, bytes) ← firstSpelling? (.ascii :: sets) (·.spell? c)
    return switch current set ++ bytes ++ switch set .ascii
  | current, c :: d :: cs =>
    match firstSpelling? sets (·.spellPair? c d) with
    | some (set, bytes) => do return switch current set ++ bytes ++ (← write sets set cs)
    | none => do
      let (set, bytes) ← firstSpelling? (.ascii :: sets) (·.spell? c)
      return switch current set ++ bytes ++ (← write sets set (d :: cs))

/-- The bytes of a text that may use the sets given, the first ones preferred. -/
def japanese? (sets : List CodeSet) (cs : List Char) : Option Bytes :=
  write sets .ascii cs

/-- The sets of the first Japanese encoding. -/
def basicSets : List CodeSet := [.jisX0208, .roman]

/-- The sets of the encoding with supplementary characters. -/
def supplementedSets : List CodeSet := [.jisX0208, .jisX0212, .roman]

/-- The sets of the encoding for Chinese and Korean words as well. -/
def multilingualSets : List CodeSet := [.jisX0208, .jisX0212, .ksX1001, .gb2312, .roman]

/-- The sets of the encoding with katakana of half width. -/
def extendedSets : List CodeSet := [.jisX0208, .jisX0212, .roman, .katakana]

/-- The sets of the encodings with JIS X 0213. -/
def x0213Sets (e : Japanese.Edition) : List CodeSet :=
  [.jisX0208, .jisX0213First e, .jisX0213Second e]

/-! ## Korean texts -/

/-- What comes before a Korean character: the name of the set, unless it has been there, and the
shift into it. -/
def shiftIn (named shifted : Bool) : Bytes :=
  (if named then [] else [0x1B, 0x24, 0x29, 0x43]) ++ if shifted then [] else [0x0E]

/-- What comes before an ASCII character and at the end. -/
def shiftOut (shifted : Bool) : Bytes :=
  if shifted then [0x0F] else []

/-- The bytes of a text after a beginning that may have named the set and may have shifted to it. -/
def writeKorean : (named shifted : Bool) → List Char → Option Bytes
  | _, shifted, [] => some (shiftOut shifted)
  | named, shifted, c :: cs =>
    match asciiBytes? c with
    | some byte => do return shiftOut shifted ++ byte ++ (← writeKorean named false cs)
    | none => do
      let p ← Grid.ksX1001.cell? c
      return shiftIn named shifted ++ p.low ++ (← writeKorean true true cs)

/-- The bytes of a Korean text. -/
def korean? (cs : List Char) : Option Bytes :=
  writeKorean false false cs

end ScriptBindings.Text.Iso2022

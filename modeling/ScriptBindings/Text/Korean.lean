import ScriptBindings.Text.Grid.KsX1001
import ScriptBindings.Text.Spelling

/-!
# Korean encodings

The characters of KS X 1001 and the syllables that it lacks. A syllable is made of a lead, a vowel
and perhaps a tail; the encodings either number the missing ones or spell their letters out.
-/

namespace ScriptBindings.Text.Korean

/-! ## Syllables -/

/-- The letters that begin a syllable, in order. -/
def leads : List Char := "ㄱㄲㄴㄷㄸㄹㅁㅂㅃㅅㅆㅇㅈㅉㅊㅋㅌㅍㅎ".toList

/-- The vowels in order. -/
def vowels : List Char := "ㅏㅐㅑㅒㅓㅔㅕㅖㅗㅘㅙㅚㅛㅜㅝㅞㅟㅠㅡㅢㅣ".toList

/-- The letters that end a syllable, in order. -/
def tails : List Char := "ㄱㄲㄳㄴㄵㄶㄷㄹㄺㄻㄼㄽㄾㄿㅀㅁㅂㅄㅅㅆㅇㅈㅊㅋㅌㅍㅎ".toList

/-- The letter that stands for none. -/
def filler : Char := '\u3164'

/-- Whether a character is a syllable. -/
def isSyllable (c : Char) : Bool :=
  '\uAC00' ≤ c && c ≤ '\uD7A3'

/-- The places of a syllable's lead, vowel and tail among their letters, where tail zero is none. -/
def parts (c : Char) : Nat × Nat × Nat :=
  let n := c.toNat - 0xAC00
  (n / (21 * 28), n / 28 % 21, n % 28)

/-! ## Encodings -/

/-- The bytes of a character in the extended Unix code. A syllable that has no cell is spelled as a
filler and its letters. -/
def unix? (c : Char) : Option Bytes :=
  asciiBytes? c <|> (Grid.ksX1001.cell? c).map Cell.high
    <|> if isSyllable c then
          let (lead, vowel, tail) := parts c
          let letters := [filler, leads.getD lead filler, vowels.getD vowel filler,
            (filler :: tails).getD tail filler]
          spellEach (fun letter => (Grid.ksX1001.cell? letter).map Cell.high) letters
        else none

/-- The second byte of a missing syllable: a letter of ASCII or a byte with its highest bit set. -/
def trail (n : Nat) : UInt8 :=
  UInt8.ofNat (n + if n < 26 then 0x41 else if n < 52 then 0x47 else 0x4D)

/-- The bytes of the missing syllable of a number: rows of 178 in front of the ones of KS X 1001,
then rows of 84 beside them. -/
def missingBytes (n : Nat) : Bytes :=
  if n < 32 * 178 then [UInt8.ofNat (0x81 + n / 178), trail (n % 178)]
  else [UInt8.ofNat (0xA1 + (n - 32 * 178) / 84), trail ((n - 32 * 178) % 84)]

/-- The bytes of a character in the code page of Windows. The syllables that have no cell are
numbered in order. -/
def windows? (c : Char) : Option Bytes :=
  asciiBytes? c <|> (Grid.ksX1001.cell? c).map Cell.high
    <|> if isSyllable c then
          let earlier := Grid.ksX1001.chars.countP fun d => isSyllable d && d < c
          some (missingBytes (c.toNat - 0xAC00 - earlier))
        else none

/-- The two bytes of a lead, a vowel and a tail, five bits each below the highest one. -/
def combined (lead vowel tail : Nat) : Bytes :=
  let n := 0x8000 + lead * 0x400 + vowel * 0x20 + tail
  [UInt8.ofNat (n / 0x100), UInt8.ofNat (n % 0x100)]

/-- The five bits of a lead, in which one is for none. -/
def leadBits (n : Nat) : Nat := n + 2

/-- The five bits of a vowel, in which two is for none. Of eight numbers the first two are left
out. -/
def vowelBits (n : Nat) : Nat := n + 3 + (n + 1) / 6 * 2

/-- The five bits of a tail, counted from zero for none. The eighteenth number is left out. -/
def tailBits (n : Nat) : Nat := n + 1 + n / 17

/-- The bytes of a letter on its own. -/
def combinedLetter? (c : Char) : Option Bytes :=
  (leads.idxOf? c).map (fun n => combined (leadBits n) 2 1)
    <|> (vowels.idxOf? c).map (fun n => combined 1 (vowelBits n) 1)
    <|> (tails.idxOf? c).map fun n => combined 1 2 (tailBits (n + 1))

/-- The bytes of a cell beside the combined syllables: two rows share a first byte. -/
def besideCombined (p : Cell) : Bytes :=
  let row := p.row - 1 + if p.row < 42 then 0x1B2 else 0x197
  let column := p.column - 1 + row % 2 * 94
  [UInt8.ofNat (row / 2), UInt8.ofNat (column + if column < 78 then 0x31 else 0x43)]

/-- The bytes of a character in the combining encoding. -/
def combining? (c : Char) : Option Bytes :=
  asciiBytes? c
    <|> (if isSyllable c then
          let (lead, vowel, tail) := parts c
          some (combined (leadBits lead) (vowelBits vowel) (tailBits tail))
        else none)
    <|> combinedLetter? c
    <|> (Grid.ksX1001.cell? c).map besideCombined

end ScriptBindings.Text.Korean

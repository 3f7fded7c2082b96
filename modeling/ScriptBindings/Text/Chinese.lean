import ScriptBindings.Text.Grid.Big5
import ScriptBindings.Text.Grid.Gb2312
import ScriptBindings.Text.Grid.Gbk
import ScriptBindings.Text.Grid.HongKong
import ScriptBindings.Text.Spelling

/-!
# Chinese encodings

The family of GB 2312, in which every encoding goes beyond the one before it until GB 18030 spells
all characters, and the family of Big5.
-/

namespace ScriptBindings.Text.Chinese

/-! ## The family of GB 2312 -/

/-- The bytes of a character in GB 2312. -/
def gb2312? (c : Char) : Option Bytes :=
  asciiBytes? c <|> (Grid.gb2312.cell? c).map Cell.high

/-- The bytes of a cell of 190 columns, whose row is named by the first byte. No second byte is that
of a delete character. -/
def extended (p : Cell) : Bytes :=
  [UInt8.ofNat p.row, UInt8.ofNat (p.column + if p.column ≤ 63 then 0x3F else 0x40)]

/-- Whether a character is of the plain range of Chinese characters. -/
def isPlain (c : Char) : Bool :=
  '\u4E00' ≤ c && c ≤ '\u9FA5'

/-- The cell of the plain character of a number: the first ones are in whole rows in front of
GB 2312, the others in the first 96 columns beside it. -/
def plainCell (n : Nat) : Cell :=
  if n < 32 * 190 then ⟨0x81 + n / 190, n % 190 + 1⟩
  else ⟨0xAA + (n - 32 * 190) / 96, (n - 32 * 190) % 96 + 1⟩

/-- The bytes of a character in GBK. The plain characters beyond GB 2312 are numbered in order. -/
def gbk? (c : Char) : Option Bytes :=
  asciiBytes? c <|> (Grid.gbkSymbols.cell? c).map extended
    <|> if c = '・' then none
        else (Grid.gb2312.cell? c).map Cell.high
          <|> if isPlain c then
                let earlier := Grid.gb2312.chars.countP fun d => isPlain d && d < c
                some (extended (plainCell (c.toNat - 0x4E00 - earlier)))
              else none

/-- The cell of a character of private use: three areas, the last of which lies in the first 96
columns. -/
def privateCell? (c : Char) : Option Cell :=
  let n := c.toNat - 0xE000
  if c.toNat < 0xE000 then none
  else if n < 6 * 94 then some ⟨0xAA + n / 94, 97 + n % 94⟩
  else if n < 13 * 94 then some ⟨0xF8 + (n - 6 * 94) / 94, 97 + n % 94⟩
  else if n < 13 * 94 + 7 * 96 then some ⟨0xA1 + (n - 13 * 94) / 96, (n - 13 * 94) % 96 + 1⟩
  else none

/-- The stretches of characters that have four bytes in GB 18030: the first code point of each, with
its number among them. -/
def fourByteStretches : List (Nat × Nat) :=
  [(0x80, 0), (0xA5, 36), (0xA9, 38), (0xB2, 45), (0xB8, 50), (0xD8, 81), (0xE2, 89), (0xEB, 95),
   (0xEE, 96), (0xF4, 100), (0xF8, 103), (0xFB, 104), (0xFD, 105), (0x102, 109), (0x114, 126),
   (0x11C, 133), (0x12C, 148), (0x145, 172), (0x149, 175), (0x14E, 179), (0x16C, 208), (0x1CF, 306),
   (0x1D1, 307), (0x1D3, 308), (0x1D5, 309), (0x1D7, 310), (0x1D9, 311), (0x1DB, 312), (0x1DD, 313),
   (0x1FA, 341), (0x252, 428), (0x262, 443), (0x2C8, 544), (0x2CC, 545), (0x2DA, 558), (0x3A2, 741),
   (0x3AA, 742), (0x3C2, 749), (0x3CA, 750), (0x402, 805), (0x450, 819), (0x452, 820),
   (0x2011, 7922), (0x2017, 7924), (0x201A, 7925), (0x201E, 7927), (0x2027, 7934), (0x2031, 7943),
   (0x2034, 7944), (0x2036, 7945), (0x203C, 7950), (0x20AD, 8062), (0x2104, 8148), (0x2106, 8149),
   (0x210A, 8152), (0x2117, 8164), (0x2122, 8174), (0x216C, 8236), (0x217A, 8240), (0x2194, 8262),
   (0x219A, 8264), (0x2209, 8374), (0x2210, 8380), (0x2212, 8381), (0x2216, 8384), (0x221B, 8388),
   (0x2221, 8390), (0x2224, 8392), (0x2226, 8393), (0x222C, 8394), (0x222F, 8396), (0x2238, 8401),
   (0x223E, 8406), (0x2249, 8416), (0x224D, 8419), (0x2253, 8424), (0x2262, 8437), (0x2268, 8439),
   (0x2270, 8445), (0x2296, 8482), (0x229A, 8485), (0x22A6, 8496), (0x22C0, 8521), (0x2313, 8603),
   (0x246A, 8936), (0x249C, 8946), (0x254C, 9046), (0x2574, 9050), (0x2590, 9063), (0x2596, 9066),
   (0x25A2, 9076), (0x25B4, 9092), (0x25BE, 9100), (0x25C8, 9108), (0x25CC, 9111), (0x25D0, 9113),
   (0x25E6, 9131), (0x2607, 9162), (0x260A, 9164), (0x2641, 9218), (0x2643, 9219), (0x2E82, 11329),
   (0x2E85, 11331), (0x2E89, 11334), (0x2E8D, 11336), (0x2E98, 11346), (0x2EA8, 11361),
   (0x2EAB, 11363), (0x2EAF, 11366), (0x2EB4, 11370), (0x2EB8, 11372), (0x2EBC, 11375),
   (0x2ECB, 11389), (0x2FFC, 11682), (0x3004, 11686), (0x3018, 11687), (0x301F, 11692),
   (0x302A, 11694), (0x303F, 11714), (0x3094, 11716), (0x309F, 11723), (0x30F7, 11725),
   (0x30FF, 11730), (0x312A, 11736), (0x322A, 11982), (0x3232, 11989), (0x32A4, 12102),
   (0x3390, 12336), (0x339F, 12348), (0x33A2, 12350), (0x33C5, 12384), (0x33CF, 12393),
   (0x33D3, 12395), (0x33D6, 12397), (0x3448, 12510), (0x3474, 12553), (0x359F, 12851),
   (0x360F, 12962), (0x361B, 12973), (0x3919, 13738), (0x396F, 13823), (0x39D1, 13919),
   (0x39E0, 13933), (0x3A74, 14080), (0x3B4F, 14298), (0x3C6F, 14585), (0x3CE1, 14698),
   (0x4057, 15583), (0x4160, 15847), (0x4338, 16318), (0x43AD, 16434), (0x43B2, 16438),
   (0x43DE, 16481), (0x44D7, 16729), (0x464D, 17102), (0x4662, 17122), (0x4724, 17315),
   (0x472A, 17320), (0x477D, 17402), (0x478E, 17418), (0x4948, 17859), (0x497B, 17909),
   (0x497E, 17911), (0x4984, 17915), (0x4987, 17916), (0x499C, 17936), (0x49A0, 17939),
   (0x49B8, 17961), (0x4C78, 18664), (0x4CA4, 18703), (0x4D1A, 18814), (0x4DAF, 18962),
   (0x9FA6, 19043), (0xE76C, 33469), (0xE7C8, 33470), (0xE7E7, 33471), (0xE815, 33484),
   (0xE819, 33485), (0xE81F, 33490), (0xE827, 33497), (0xE82D, 33501), (0xE833, 33505),
   (0xE83C, 33513), (0xE844, 33520), (0xE856, 33536), (0xE865, 33550), (0xF92D, 37845),
   (0xF97A, 37921), (0xF996, 37948), (0xF9E8, 38029), (0xF9F2, 38038), (0xFA10, 38064),
   (0xFA12, 38065), (0xFA15, 38066), (0xFA19, 38069), (0xFA22, 38075), (0xFA25, 38076),
   (0xFA2A, 38078), (0xFE32, 39108), (0xFE45, 39109), (0xFE53, 39113), (0xFE58, 39114),
   (0xFE67, 39115), (0xFE6C, 39116), (0xFF5F, 39265), (0xFFE6, 39394)]

/-- The number of a character among the ones of four bytes. -/
def fourByteNumber (c : Char) : Nat :=
  let n := c.toNat
  if 0x10000 ≤ n then 189000 + (n - 0x10000)
  else match fourByteStretches.reverse.find? fun stretch => stretch.1 ≤ n with
    | some (first, number) => number + (n - first)
    | none => 0

/-- The four bytes of a number, of which every second one counts to ten. -/
def fourBytes (n : Nat) : Bytes :=
  [UInt8.ofNat (0x81 + n / 12600), UInt8.ofNat (0x30 + n / 1260 % 10),
   UInt8.ofNat (0x81 + n / 10 % 126), UInt8.ofNat (0x30 + n % 10)]

/-- The bytes of a character in GB 18030, which has all of them. -/
def gb18030 (c : Char) : Bytes :=
  (gbk? c <|> (Grid.gb18030Symbols.cell? c <|> privateCell? c).map extended).getD
    (fourBytes (fourByteNumber c))

/-- The rest of a text of which Chinese stretches are in braces with a tilde before them, the bytes
of GB 2312 without their highest bits. A tilde itself is doubled. -/
def braced : (inside : Bool) → List Char → Option Bytes
  | inside, [] => some (closing inside)
  | inside, c :: cs => do
    match asciiBytes? c with
    | some byte =>
      let tilde := if c = '~' then byte else []
      return closing inside ++ byte ++ tilde ++ (← braced false cs)
    | none =>
      let p ← Grid.gb2312.cell? c
      let opening := if inside then [] else [0x7E, 0x7B]
      return opening ++ p.low ++ (← braced true cs)
where
  /-- What ends a Chinese stretch. -/
  closing (inside : Bool) : Bytes :=
    if inside then [0x7E, 0x7D] else []

/-! ## The family of Big5 -/

/-- The bytes of a cell of 157 columns, whose row is named by the first byte. -/
def big (p : Cell) : Bytes :=
  [UInt8.ofNat p.row, UInt8.ofNat (p.column + if p.column ≤ 63 then 0x3F else 0x61)]

/-- The bytes of a character in Big5. -/
def big5? (c : Char) : Option Bytes :=
  asciiBytes? c <|> (Grid.big5.cell? c).map big

/-- The bytes of a character in the code page of Windows. -/
def windowsBig5? (c : Char) : Option Bytes :=
  asciiBytes? c <|> (Grid.windowsBig5.cell? c <|> Grid.big5.cell? c).map big

/-- The bytes of a character with the supplement of Hong Kong. -/
def hongKong? (c : Char) : Option Bytes :=
  asciiBytes? c <|> (Grid.hongKong.cell? c <|> Grid.big5.cell? c).map big

/-- The bytes of a letter together with the mark behind it, of which the low 16 bits count. -/
def hongKongPair? (c mark : Char) : Option Bytes :=
  match c, Char.ofNat (mark.toNat % 0x10000) with
  | 'Ê', '\u0304' => some [0x88, 0x62]
  | 'Ê', '\u030C' => some [0x88, 0x64]
  | 'ê', '\u0304' => some [0x88, 0xA3]
  | 'ê', '\u030C' => some [0x88, 0xA5]
  | _, _ => none

end ScriptBindings.Text.Chinese

import ScriptBindings.Text.Charset
import ScriptBindings.Text.DomainName
import ScriptBindings.Text.Escaped
import ScriptBindings.Text.Iso2022
import ScriptBindings.Text.Utf7

/-!
# Text encodings

The encodings that script files may be written in, and the bytes that a text has in each. An
encoding that cannot spell some character of a text spells none of it.

* `encode` gives the bytes of a text.
-/

namespace ScriptBindings.Text

/-- An encoding of text. The ones of several bytes without a byte order in their name start with a
byte order mark, as does `utf8Signed`. -/
inductive Encoding where
  | ascii
  | latin1
  /-- A set of characters with one byte each. -/
  | charset (chars : String)
  | utf7
  | utf8
  | utf8Signed
  | utf16
  | utf16LittleEndian
  | utf16BigEndian
  | utf32
  | utf32LittleEndian
  | utf32BigEndian
  /-- ASCII with escapes for all other characters. -/
  | escaped
  /-- Single bytes with escapes for the characters beyond them. -/
  | narrowEscaped
  | punycode
  /-- Domain names in ASCII. -/
  | domainName
  /-- The encoding that has no text at all. -/
  | forbidden
  | gb2312
  | gbk
  | gb18030
  /-- GB 2312 in ASCII characters, between braces. -/
  | bracedChinese
  | big5
  | windowsBig5
  | hongKongBig5
  /-- The extended Unix code for Japanese. -/
  | unixJapanese
  /-- The Japanese encoding in which two rows share a first byte. -/
  | shiftJapanese
  | windowsJapanese
  /-- The extended Unix code with an edition of JIS X 0213. -/
  | unixX0213 (e : Japanese.Edition)
  /-- The shifted encoding with an edition of JIS X 0213. -/
  | shiftX0213 (e : Japanese.Edition)
  /-- The Japanese character sets between escape sequences. -/
  | escapedJapanese (sets : List Iso2022.CodeSet)
  /-- The extended Unix code for Korean. -/
  | unixKorean
  | windowsKorean
  /-- The Korean encoding whose syllables are combined from letters. -/
  | combiningKorean
  /-- The Korean character set behind an escape sequence. -/
  | escapedKorean
  deriving DecidableEq, Repr

/-- Why a text has no bytes in an encoding. -/
inductive EncodingError where
  /-- Some character has no bytes. -/
  | unspellable
  /-- The encoding is not for texts like this one. -/
  | refused
  deriving DecidableEq, Repr

namespace Encoding

/-- The single byte of a character below `bound`. -/
def byteBelow? (bound : Nat) (c : Char) : Option UInt8 :=
  if c.toNat < bound then some (UInt8.ofNat c.toNat) else none

/-- The bytes of a text in an encoding that is for all texts, if it can spell all of it. -/
def bytes? (e : Encoding) (cs : List Char) : Option Bytes :=
  match e with
  | ascii => cs.mapM (byteBelow? 0x80)
  | latin1 => cs.mapM (byteBelow? 0x100)
  | charset chars => cs.mapM (Charset.byte? chars.toList)
  | utf7 => (Utf7.encode cs).mapM (byteBelow? 0x80)
  | utf8 => some (cs.flatMap String.utf8EncodeChar)
  | utf8Signed => some ([0xEF, 0xBB, 0xBF] ++ cs.flatMap String.utf8EncodeChar)
  -- the byte order mark comes even before an empty text
  | utf16 => some ([0xFF, 0xFE] ++ (cs.flatMap units16).flatMap unit16)
  | utf16LittleEndian => some ((cs.flatMap units16).flatMap unit16)
  | utf16BigEndian => some ((cs.flatMap units16).flatMap fun n => (unit16 n).reverse)
  | utf32 => some ([0xFF, 0xFE, 0, 0] ++ cs.flatMap fun c => unit32 c.toNat)
  | utf32LittleEndian => some (cs.flatMap fun c => unit32 c.toNat)
  | utf32BigEndian => some (cs.flatMap fun c => (unit32 c.toNat).reverse)
  | escaped => (cs.flatMap Escaped.printable).mapM (byteBelow? 0x80)
  | narrowEscaped => (cs.flatMap Escaped.narrow).mapM (byteBelow? 0x100)
  | punycode => (Punycode.encode cs).mapM (byteBelow? 0x80)
  | domainName => (DomainName.encode? cs).bind fun name => name.mapM (byteBelow? 0x80)
  | forbidden => none
  | gb2312 => spellEach Chinese.gb2312? cs
  | gbk => spellEach Chinese.gbk? cs
  | gb18030 => some (cs.flatMap Chinese.gb18030)
  | bracedChinese => Chinese.braced false cs
  | big5 => spellEach Chinese.big5? cs
  | windowsBig5 => spellEach Chinese.windowsBig5? cs
  | hongKongBig5 => spellPairs Chinese.hongKongPair? Chinese.hongKong? cs
  | unixJapanese => spellEach Japanese.unix? cs
  | shiftJapanese => spellEach Japanese.shift? cs
  | windowsJapanese => spellEach Japanese.windows? cs
  | unixX0213 e =>
    spellPairs (fun c mark => (Japanese.marked? c mark).map Cell.high) (Japanese.unixX0213? e) cs
  | shiftX0213 e =>
    spellPairs (fun c mark => (Japanese.marked? c mark).map Japanese.shifted)
      (Japanese.shiftX0213? e) cs
  | escapedJapanese sets => Iso2022.japanese? sets cs
  | unixKorean => spellEach Korean.unix? cs
  | windowsKorean => spellEach Korean.windows? cs
  | combiningKorean => spellEach Korean.combining? cs
  | escapedKorean => Iso2022.korean? cs

/-- Whether an encoding is for certain texts only. -/
def isSelective : Encoding → Bool
  | domainName | forbidden => true
  | _ => false

/-- The bytes of a text in an encoding. -/
def encode (e : Encoding) (s : String) : Except EncodingError Bytes :=
  match e.bytes? s.toList with
  | some bytes => .ok bytes
  | none => .error (if e.isSelective then .refused else .unspellable)

end Encoding

end ScriptBindings.Text

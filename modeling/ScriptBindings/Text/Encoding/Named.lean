import ScriptBindings.Text.Charset.Dos
import ScriptBindings.Text.Charset.Ebcdic
import ScriptBindings.Text.Charset.Iso8859
import ScriptBindings.Text.Charset.Koi8
import ScriptBindings.Text.Charset.Macintosh
import ScriptBindings.Text.Charset.Windows
import ScriptBindings.Text.Encoding

/-!
# Names of encodings

The names by which the encodings are asked for.

* `ofName?` finds an encoding.
-/

namespace ScriptBindings.Text.Encoding

/-- Whether a character counts in the name of an encoding; the others only separate its parts. -/
def isNameChar (c : Char) : Bool :=
  c.isAlphanum || c == '.'

/-- Continues a simplified name: a gap becomes one underscore as soon as another part follows. -/
def simplifyFrom : (started gap : Bool) → List Char → List Char
  | _, _, [] => []
  | started, gap, c :: cs =>
    if isNameChar c then
      if started && gap then '_' :: c.toLower :: simplifyFrom true false cs
      else c.toLower :: simplifyFrom true false cs
    else simplifyFrom started true cs

/-- The name of an encoding in small letters, with one underscore between its parts. -/
def simplifyName (name : List Char) : List Char :=
  simplifyFrom false false name

/-- An encoding with its own name and the other names it goes by, all of them simplified. -/
structure Listed where
  encoding : Encoding
  name : String
  aliases : List String

/-- The encodings that are not just a set of characters. -/
def general : List Listed :=
  [⟨ascii, "ascii", ["646", "ansi_x3.4_1968", "ansi_x3.4_1986", "ansi_x3_4_1968", "cp367",
     "csascii", "ibm367", "iso646_us", "iso_646.irv_1991", "iso_ir_6", "us", "us_ascii"]⟩,
   ⟨latin1, "latin_1", ["8859", "cp819", "csisolatin1", "ibm819", "iso8859", "iso8859_1",
     "iso_8859_1", "iso_8859_1_1987", "iso_ir_100", "l1", "latin", "latin1"]⟩,
   ⟨latin1, "iso8859_1", []⟩,
   ⟨latin1, "charmap", []⟩,
   ⟨utf7, "utf_7", ["u7", "unicode_1_1_utf_7", "utf7"]⟩,
   ⟨utf8, "utf_8", ["cp65001", "u8", "utf", "utf8", "utf8_ucs2", "utf8_ucs4"]⟩,
   ⟨utf8Signed, "utf_8_sig", []⟩,
   ⟨utf16, "utf_16", ["u16", "utf16"]⟩,
   ⟨utf16LittleEndian, "utf_16_le", ["unicodelittleunmarked", "utf_16le"]⟩,
   ⟨utf16BigEndian, "utf_16_be", ["unicodebigunmarked", "utf_16be"]⟩,
   ⟨utf32, "utf_32", ["u32", "utf32"]⟩,
   ⟨utf32LittleEndian, "utf_32_le", ["utf_32le"]⟩,
   ⟨utf32BigEndian, "utf_32_be", ["utf_32be"]⟩,
   ⟨escaped, "unicode_escape", []⟩,
   ⟨narrowEscaped, "raw_unicode_escape", []⟩,
   ⟨punycode, "punycode", []⟩,
   ⟨domainName, "idna", []⟩,
   ⟨forbidden, "undefined", []⟩]

/-- The Chinese encodings. -/
def chinese : List Listed :=
  [⟨gb2312, "gb2312", ["chinese", "csiso58gb231280", "euc_cn", "euccn", "eucgb2312_cn",
     "gb2312_1980", "gb2312_80", "iso_ir_58", "x_mac_simp_chinese"]⟩,
   ⟨gbk, "gbk", ["936", "cp936", "ms936"]⟩,
   ⟨gb18030, "gb18030", ["gb18030_2000"]⟩,
   ⟨bracedChinese, "hz", ["hz_gb", "hz_gb_2312", "hzgb"]⟩,
   ⟨big5, "big5", ["big5_tw", "csbig5", "x_mac_trad_chinese"]⟩,
   ⟨windowsBig5, "cp950", ["950", "ms950"]⟩,
   ⟨hongKongBig5, "big5hkscs", ["big5_hkscs", "hkscs"]⟩]

/-- The Japanese encodings. -/
def japanese : List Listed :=
  [⟨unixJapanese, "euc_jp", ["eucjp", "u_jis", "ujis"]⟩,
   ⟨shiftJapanese, "shift_jis", ["csshiftjis", "s_jis", "shiftjis", "sjis", "x_mac_japanese"]⟩,
   ⟨windowsJapanese, "cp932", ["932", "ms932", "ms_kanji", "mskanji"]⟩,
   ⟨unixX0213 .of2000, "euc_jisx0213", ["eucjisx0213"]⟩,
   ⟨unixX0213 .of2004, "euc_jis_2004", ["euc_jis2004", "eucjis2004", "jisx0213"]⟩,
   ⟨shiftX0213 .of2000, "shift_jisx0213", ["s_jisx0213", "shiftjisx0213", "sjisx0213"]⟩,
   ⟨shiftX0213 .of2004, "shift_jis_2004", ["s_jis_2004", "shiftjis2004", "sjis_2004"]⟩,
   ⟨escapedJapanese Iso2022.basicSets, "iso2022_jp", ["csiso2022jp", "iso2022jp", "iso_2022_jp"]⟩,
   ⟨escapedJapanese Iso2022.supplementedSets, "iso2022_jp_1", ["iso2022jp_1", "iso_2022_jp_1"]⟩,
   ⟨escapedJapanese Iso2022.multilingualSets, "iso2022_jp_2", ["iso2022jp_2", "iso_2022_jp_2"]⟩,
   ⟨escapedJapanese (Iso2022.x0213Sets .of2000), "iso2022_jp_3",
     ["iso2022jp_3", "iso_2022_jp_3"]⟩,
   ⟨escapedJapanese (Iso2022.x0213Sets .of2004), "iso2022_jp_2004",
     ["iso2022jp_2004", "iso_2022_jp_2004"]⟩,
   ⟨escapedJapanese Iso2022.extendedSets, "iso2022_jp_ext",
     ["iso2022jp_ext", "iso_2022_jp_ext"]⟩]

/-- The Korean encodings. -/
def korean : List Listed :=
  [⟨unixKorean, "euc_kr", ["euckr", "korean", "ks_c_5601", "ks_c_5601_1987", "ks_x_1001",
     "ksc5601", "ksx1001", "x_mac_korean"]⟩,
   ⟨windowsKorean, "cp949", ["949", "ms949", "uhc"]⟩,
   ⟨combiningKorean, "johab", ["cp1361", "ms1361"]⟩,
   ⟨escapedKorean, "iso2022_kr", ["csiso2022kr", "iso2022kr", "iso_2022_kr"]⟩]

/-- Every set of characters that an encoding is made of. -/
def charsets : List Charset :=
  isoCharsets ++ windowsCharsets ++ dosCharsets ++ macintoshCharsets ++ koi8Charsets
    ++ ebcdicCharsets

/-- Every encoding. -/
def all : List Listed :=
  general ++ chinese ++ japanese ++ korean
    ++ charsets.map fun set => ⟨charset set.chars, set.name, set.aliases⟩

/-- The encoding that goes by another name. -/
def ofAlias? (name : List Char) : Option Encoding :=
  (all.find? fun entry => String.ofList name ∈ entry.aliases).map (·.encoding)

/-- The encoding of a name, whatever its capitals and separators. Dots separate as well, but not in
the encoding's own name. -/
def ofName? (name : String) : Option Encoding :=
  let simple := simplifyName name.toList
  let dotless := simple.map fun c => if c = '.' then '_' else c
  ofAlias? simple <|> ofAlias? dotless
    <|> (all.find? fun entry => entry.name = String.ofList simple).map (·.encoding)

end ScriptBindings.Text.Encoding

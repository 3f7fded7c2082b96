import ScriptBindings.Text.CaseMapping
import ScriptBindings.Text.CharRun
import ScriptBindings.Text.Replacement

/-!
# Letters of domain names

Domain names do not tell capitals from small letters, nor some variants of a letter from the letter
itself, and some characters do not count in them at all.
-/

namespace ScriptBindings.Text.DomainName

/-- The characters that do not count. -/
def ignoredRuns : List CharRun :=
  [⟨0xAD, 0xAD, 1⟩, ⟨0x34F, 0x34F, 1⟩, ⟨0x1806, 0x1806, 1⟩, ⟨0x180B, 0x180D, 1⟩,
   ⟨0x200B, 0x200D, 1⟩, ⟨0x2060, 0x2060, 1⟩, ⟨0xFE00, 0xFE0F, 1⟩, ⟨0xFEFF, 0xFEFF, 1⟩]

/-- The characters that stand for others than their small letters. -/
def foldings : List ReplacementRun :=
  [⟨0xB5, 1, "μ"⟩, ⟨0xDF, 2, "ss"⟩, ⟨0x149, 2, "\u02BCn"⟩, ⟨0x17F, 1, "s"⟩, ⟨0x1F0, 2, "j\u030C"⟩,
   ⟨0x345, 1, "ι"⟩, ⟨0x37A, 2, " ι"⟩, ⟨0x390, 3, "ι\u0308\u0301"⟩, ⟨0x3B0, 3, "υ\u0308\u0301"⟩,
   ⟨0x3C2, 1, "σ"⟩, ⟨0x3D0, 1, "βθυύϋφπ"⟩, ⟨0x3F0, 1, "κρσ"⟩, ⟨0x3F5, 1, "ε"⟩, ⟨0x3F9, 1, "σ"⟩,
   ⟨0x587, 2, "եւ"⟩, ⟨0x1E96, 2, "h\u0331t\u0308w\u030Ay\u030Aa\u02BE"⟩, ⟨0x1E9B, 1, "ṡ"⟩,
   ⟨0x1E9E, 2, "ss"⟩, ⟨0x1F50, 2, "υ\u0313"⟩, ⟨0x1F52, 3, "υ\u0313\u0300"⟩,
   ⟨0x1F54, 3, "υ\u0313\u0301"⟩, ⟨0x1F56, 3, "υ\u0313\u0342"⟩,
   ⟨0x1F80, 2, "ἀιἁιἂιἃιἄιἅιἆιἇιἀιἁιἂιἃιἄιἅιἆιἇιἠιἡιἢιἣιἤιἥιἦιἧιἠιἡιἢιἣιἤιἥιἦιἧιὠιὡιὢιὣιὤι" ++
    "ὥιὦιὧιὠιὡιὢιὣιὤιὥιὦιὧι"⟩,
   ⟨0x1FB2, 2, "ὰιαιάι"⟩, ⟨0x1FB6, 2, "α\u0342"⟩, ⟨0x1FB7, 3, "α\u0342ι"⟩, ⟨0x1FBC, 2, "αι"⟩,
   ⟨0x1FBE, 1, "ι"⟩, ⟨0x1FC2, 2, "ὴιηιήι"⟩, ⟨0x1FC6, 2, "η\u0342"⟩, ⟨0x1FC7, 3, "η\u0342ι"⟩,
   ⟨0x1FCC, 2, "ηι"⟩, ⟨0x1FD2, 3, "ι\u0308\u0300ι\u0308\u0301"⟩, ⟨0x1FD6, 2, "ι\u0342"⟩,
   ⟨0x1FD7, 3, "ι\u0308\u0342"⟩, ⟨0x1FE2, 3, "υ\u0308\u0300υ\u0308\u0301"⟩, ⟨0x1FE4, 2, "ρ\u0313"⟩,
   ⟨0x1FE6, 2, "υ\u0342"⟩, ⟨0x1FE7, 3, "υ\u0308\u0342"⟩, ⟨0x1FF2, 2, "ὼιωιώι"⟩,
   ⟨0x1FF6, 2, "ω\u0342"⟩, ⟨0x1FF7, 3, "ω\u0342ι"⟩, ⟨0x1FFC, 2, "ωι"⟩, ⟨0x20A8, 2, "rs"⟩,
   ⟨0x2102, 1, "c"⟩, ⟨0x2103, 2, "°c"⟩, ⟨0x2107, 1, "ɛ"⟩, ⟨0x2109, 2, "°f"⟩, ⟨0x210B, 1, "hhh"⟩,
   ⟨0x2110, 1, "iil"⟩, ⟨0x2115, 1, "n"⟩, ⟨0x2116, 2, "no"⟩, ⟨0x2119, 1, "pqrrr"⟩, ⟨0x2120, 2, "sm"⟩,
   ⟨0x2121, 3, "tel"⟩, ⟨0x2122, 2, "tm"⟩, ⟨0x2124, 1, "z"⟩, ⟨0x2128, 1, "z"⟩, ⟨0x212C, 1, "bc"⟩,
   ⟨0x2130, 1, "ef"⟩, ⟨0x2133, 1, "m"⟩, ⟨0x213E, 1, "γπ"⟩, ⟨0x2145, 1, "d"⟩, ⟨0x3371, 3, "hpa"⟩,
   ⟨0x3373, 2, "au"⟩, ⟨0x3375, 2, "ov"⟩, ⟨0x3380, 2, "panaμamakakbmbgb"⟩, ⟨0x338A, 2, "pfnfμf"⟩,
   ⟨0x3390, 2, "hz"⟩, ⟨0x3391, 3, "khzmhzghzthz"⟩, ⟨0x33A9, 2, "pa"⟩, ⟨0x33AA, 3, "kpampagpa"⟩,
   ⟨0x33B4, 2, "pvnvμvmvkvmvpwnwμwmwkwmwkωmω"⟩, ⟨0x33C3, 2, "bq"⟩, ⟨0x33C6, 4, "c∕kg"⟩,
   ⟨0x33C7, 3, "co."⟩, ⟨0x33C8, 2, "dbgy"⟩, ⟨0x33CB, 2, "hp"⟩, ⟨0x33CD, 2, "kkkm"⟩,
   ⟨0x33D7, 2, "ph"⟩, ⟨0x33D9, 3, "ppm"⟩, ⟨0x33DA, 2, "pr"⟩, ⟨0x33DC, 2, "svwb"⟩,
   ⟨0xFB00, 2, "fffifl"⟩, ⟨0xFB03, 3, "ffiffl"⟩, ⟨0xFB05, 2, "stst"⟩, ⟨0xFB13, 2, "մնմեմիվնմխ"⟩,
   ⟨0x1D400, 1, "abcdefghijklmnopqrstuvwxyz"⟩, ⟨0x1D434, 1, "abcdefghijklmnopqrstuvwxyz"⟩,
   ⟨0x1D468, 1, "abcdefghijklmnopqrstuvwxyz"⟩, ⟨0x1D49C, 1, "a"⟩, ⟨0x1D49E, 1, "cd"⟩,
   ⟨0x1D4A2, 1, "g"⟩, ⟨0x1D4A5, 1, "jk"⟩, ⟨0x1D4A9, 1, "nopq"⟩, ⟨0x1D4AE, 1, "stuvwxyz"⟩,
   ⟨0x1D4D0, 1, "abcdefghijklmnopqrstuvwxyz"⟩, ⟨0x1D504, 1, "ab"⟩, ⟨0x1D507, 1, "defg"⟩,
   ⟨0x1D50D, 1, "jklmnopq"⟩, ⟨0x1D516, 1, "stuvwxy"⟩, ⟨0x1D538, 1, "ab"⟩, ⟨0x1D53B, 1, "defg"⟩,
   ⟨0x1D540, 1, "ijklm"⟩, ⟨0x1D546, 1, "o"⟩, ⟨0x1D54A, 1, "stuvwxy"⟩,
   ⟨0x1D56C, 1, "abcdefghijklmnopqrstuvwxyz"⟩, ⟨0x1D5A0, 1, "abcdefghijklmnopqrstuvwxyz"⟩,
   ⟨0x1D5D4, 1, "abcdefghijklmnopqrstuvwxyz"⟩, ⟨0x1D608, 1, "abcdefghijklmnopqrstuvwxyz"⟩,
   ⟨0x1D63C, 1, "abcdefghijklmnopqrstuvwxyz"⟩, ⟨0x1D670, 1, "abcdefghijklmnopqrstuvwxyz"⟩,
   ⟨0x1D6A8, 1, "αβγδεζηθικλμνξοπρθστυφχψω"⟩, ⟨0x1D6D3, 1, "σ"⟩,
   ⟨0x1D6E2, 1, "αβγδεζηθικλμνξοπρθστυφχψω"⟩, ⟨0x1D70D, 1, "σ"⟩,
   ⟨0x1D71C, 1, "αβγδεζηθικλμνξοπρθστυφχψω"⟩, ⟨0x1D747, 1, "σ"⟩,
   ⟨0x1D756, 1, "αβγδεζηθικλμνξοπρθστυφχψω"⟩, ⟨0x1D781, 1, "σ"⟩,
   ⟨0x1D790, 1, "αβγδεζηθικλμνξοπρθστυφχψω"⟩, ⟨0x1D7BB, 1, "σ"⟩]

/-- Whether a character does not count. -/
def isIgnored (c : Char) : Bool :=
  covered ignoredRuns c

/-- What stands for a character. -/
def fold (c : Char) : List Char :=
  (replacement? foldings c).getD (lowercase c)

end ScriptBindings.Text.DomainName

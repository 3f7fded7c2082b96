import ScriptBindings.Text.Replacement

/-!
# Decomposition of characters

The characters that are made of others, or that are variants of others, with what they are made of.
Hangul syllables follow a rule of their own and are not in the table.
-/

namespace ScriptBindings.Text.Normal

/-- The characters that each character is made of, itself excepted. -/
def decompositions : List ReplacementRun :=
  [⟨0xA0, 1, " "⟩, ⟨0xA8, 2, " \u0308"⟩, ⟨0xAA, 1, "a"⟩, ⟨0xAF, 2, " \u0304"⟩, ⟨0xB2, 1, "23"⟩,
   ⟨0xB4, 2, " \u0301"⟩, ⟨0xB5, 1, "μ"⟩, ⟨0xB8, 2, " \u0327"⟩, ⟨0xB9, 1, "1o"⟩,
   ⟨0xBC, 3, "1⁄41⁄23⁄4"⟩, ⟨0xC0, 2, "A\u0300A\u0301A\u0302A\u0303A\u0308A\u030A"⟩,
   ⟨0xC7, 2, "C\u0327E\u0300E\u0301E\u0302E\u0308I\u0300I\u0301I\u0302I\u0308"⟩,
   ⟨0xD1, 2, "N\u0303O\u0300O\u0301O\u0302O\u0303O\u0308"⟩,
   ⟨0xD9, 2, "U\u0300U\u0301U\u0302U\u0308Y\u0301"⟩,
   ⟨0xE0, 2, "a\u0300a\u0301a\u0302a\u0303a\u0308a\u030A"⟩,
   ⟨0xE7, 2, "c\u0327e\u0300e\u0301e\u0302e\u0308i\u0300i\u0301i\u0302i\u0308"⟩,
   ⟨0xF1, 2, "n\u0303o\u0300o\u0301o\u0302o\u0303o\u0308"⟩,
   ⟨0xF9, 2, "u\u0300u\u0301u\u0302u\u0308y\u0301"⟩,
   ⟨0xFF, 2, "y\u0308A\u0304a\u0304A\u0306a\u0306A\u0328a\u0328C\u0301c\u0301C\u0302c" ++
    "\u0302C\u0307c\u0307C\u030Cc\u030CD\u030Cd\u030C"⟩,
   ⟨0x112, 2, "E\u0304e\u0304E\u0306e\u0306E\u0307e\u0307E\u0328e\u0328E\u030Ce\u030CG" ++
    "\u0302g\u0302G\u0306g\u0306G\u0307g\u0307G\u0327g\u0327H\u0302h\u0302"⟩,
   ⟨0x128, 2, "I\u0303i\u0303I\u0304i\u0304I\u0306i\u0306I\u0328i\u0328I\u0307"⟩,
   ⟨0x132, 2, "IJijJ\u0302j\u0302K\u0327k\u0327"⟩,
   ⟨0x139, 2, "L\u0301l\u0301L\u0327l\u0327L\u030Cl\u030CL·l·"⟩,
   ⟨0x143, 2, "N\u0301n\u0301N\u0327n\u0327N\u030Cn\u030C\u02BCn"⟩,
   ⟨0x14C, 2, "O\u0304o\u0304O\u0306o\u0306O\u030Bo\u030B"⟩,
   ⟨0x154, 2, "R\u0301r\u0301R\u0327r\u0327R\u030Cr\u030CS\u0301s\u0301S\u0302s\u0302S" ++
    "\u0327s\u0327S\u030Cs\u030CT\u0327t\u0327T\u030Ct\u030C"⟩,
   ⟨0x168, 2, "U\u0303u\u0303U\u0304u\u0304U\u0306u\u0306U\u030Au\u030AU\u030Bu\u030BU" ++
    "\u0328u\u0328W\u0302w\u0302Y\u0302y\u0302Y\u0308Z\u0301z\u0301Z\u0307z" ++
    "\u0307Z\u030Cz\u030C"⟩,
   ⟨0x17F, 1, "s"⟩, ⟨0x1A0, 2, "O\u031Bo\u031B"⟩, ⟨0x1AF, 2, "U\u031Bu\u031B"⟩,
   ⟨0x1C4, 3, "DZ\u030CDz\u030Cdz\u030C"⟩,
   ⟨0x1C7, 2, "LJLjljNJNjnjA\u030Ca\u030CI\u030Ci\u030CO\u030Co\u030CU\u030Cu\u030C"⟩,
   ⟨0x1D5, 3, "U\u0308\u0304u\u0308\u0304U\u0308\u0301u\u0308\u0301U\u0308\u030Cu\u0308" ++
    "\u030CU\u0308\u0300u\u0308\u0300"⟩,
   ⟨0x1DE, 3, "A\u0308\u0304a\u0308\u0304A\u0307\u0304a\u0307\u0304"⟩, ⟨0x1E2, 2, "Æ\u0304æ\u0304"⟩,
   ⟨0x1E6, 2, "G\u030Cg\u030CK\u030Ck\u030CO\u0328o\u0328"⟩,
   ⟨0x1EC, 3, "O\u0328\u0304o\u0328\u0304"⟩,
   ⟨0x1EE, 2, "Ʒ\u030Cʒ\u030Cj\u030CDZDzdzG\u0301g\u0301"⟩, ⟨0x1F8, 2, "N\u0300n\u0300"⟩,
   ⟨0x1FA, 3, "A\u030A\u0301a\u030A\u0301"⟩,
   ⟨0x1FC, 2, "Æ\u0301æ\u0301Ø\u0301ø\u0301A\u030Fa\u030FA\u0311a\u0311E\u030Fe\u030FE" ++
    "\u0311e\u0311I\u030Fi\u030FI\u0311i\u0311O\u030Fo\u030FO\u0311o\u0311R" ++
    "\u030Fr\u030FR\u0311r\u0311U\u030Fu\u030FU\u0311u\u0311S\u0326s\u0326T" ++
    "\u0326t\u0326"⟩,
   ⟨0x21E, 2, "H\u030Ch\u030C"⟩, ⟨0x226, 2, "A\u0307a\u0307E\u0327e\u0327"⟩,
   ⟨0x22A, 3, "O\u0308\u0304o\u0308\u0304O\u0303\u0304o\u0303\u0304"⟩, ⟨0x22E, 2, "O\u0307o\u0307"⟩,
   ⟨0x230, 3, "O\u0307\u0304o\u0307\u0304"⟩, ⟨0x232, 2, "Y\u0304y\u0304"⟩, ⟨0x2B0, 1, "hɦjrɹɻʁwy"⟩,
   ⟨0x2D8, 2, " \u0306 \u0307 \u030A \u0328 \u0303 \u030B"⟩, ⟨0x2E0, 1, "ɣlsxʕ"⟩,
   ⟨0x340, 1, "\u0300\u0301"⟩, ⟨0x343, 1, "\u0313"⟩, ⟨0x344, 2, "\u0308\u0301"⟩,
   ⟨0x374, 1, "\u02B9"⟩, ⟨0x37A, 2, " \u0345"⟩, ⟨0x37E, 1, ";"⟩, ⟨0x384, 2, " \u0301"⟩,
   ⟨0x385, 3, " \u0308\u0301"⟩, ⟨0x386, 2, "Α\u0301"⟩, ⟨0x387, 1, "·"⟩,
   ⟨0x388, 2, "Ε\u0301Η\u0301Ι\u0301"⟩, ⟨0x38C, 2, "Ο\u0301"⟩, ⟨0x38E, 2, "Υ\u0301Ω\u0301"⟩,
   ⟨0x390, 3, "ι\u0308\u0301"⟩, ⟨0x3AA, 2, "Ι\u0308Υ\u0308α\u0301ε\u0301η\u0301ι\u0301"⟩,
   ⟨0x3B0, 3, "υ\u0308\u0301"⟩, ⟨0x3CA, 2, "ι\u0308υ\u0308ο\u0301υ\u0301ω\u0301"⟩,
   ⟨0x3D0, 1, "βθΥ"⟩, ⟨0x3D3, 2, "Υ\u0301Υ\u0308"⟩, ⟨0x3D5, 1, "φπ"⟩, ⟨0x3F0, 1, "κρς"⟩,
   ⟨0x3F4, 1, "Θε"⟩, ⟨0x400, 2, "Е\u0300Е\u0308"⟩, ⟨0x403, 2, "Г\u0301"⟩, ⟨0x407, 2, "І\u0308"⟩,
   ⟨0x40C, 2, "К\u0301И\u0300У\u0306"⟩, ⟨0x419, 2, "И\u0306"⟩, ⟨0x439, 2, "и\u0306"⟩,
   ⟨0x450, 2, "е\u0300е\u0308"⟩, ⟨0x453, 2, "г\u0301"⟩, ⟨0x457, 2, "і\u0308"⟩,
   ⟨0x45C, 2, "к\u0301и\u0300у\u0306"⟩, ⟨0x476, 2, "Ѵ\u030Fѵ\u030F"⟩, ⟨0x4C1, 2, "Ж\u0306ж\u0306"⟩,
   ⟨0x4D0, 2, "А\u0306а\u0306А\u0308а\u0308"⟩, ⟨0x4D6, 2, "Е\u0306е\u0306"⟩,
   ⟨0x4DA, 2, "Ә\u0308ә\u0308Ж\u0308ж\u0308З\u0308з\u0308"⟩,
   ⟨0x4E2, 2, "И\u0304и\u0304И\u0308и\u0308О\u0308о\u0308"⟩,
   ⟨0x4EA, 2, "Ө\u0308ө\u0308Э\u0308э\u0308У\u0304у\u0304У\u0308у\u0308У\u030Bу\u030BЧ" ++
    "\u0308ч\u0308"⟩,
   ⟨0x4F8, 2, "Ы\u0308ы\u0308"⟩, ⟨0x587, 2, "եւ"⟩,
   ⟨0x622, 2, "\u0627\u0653\u0627\u0654\u0648\u0654\u0627\u0655\u064A\u0654"⟩,
   ⟨0x675, 2, "\u0627\u0674\u0648\u0674\u06C7\u0674\u064A\u0674"⟩, ⟨0x6C0, 2, "\u06D5\u0654"⟩,
   ⟨0x6C2, 2, "\u06C1\u0654"⟩, ⟨0x6D3, 2, "\u06D2\u0654"⟩, ⟨0x929, 2, "न\u093C"⟩,
   ⟨0x931, 2, "र\u093C"⟩, ⟨0x934, 2, "ळ\u093C"⟩,
   ⟨0x958, 2, "क\u093Cख\u093Cग\u093Cज\u093Cड\u093Cढ\u093Cफ\u093Cय\u093C"⟩,
   ⟨0x9CB, 2, "\u09C7\u09BE\u09C7\u09D7"⟩, ⟨0x9DC, 2, "ড\u09BCঢ\u09BC"⟩, ⟨0x9DF, 2, "য\u09BC"⟩,
   ⟨0xA33, 2, "ਲ\u0A3C"⟩, ⟨0xA36, 2, "ਸ\u0A3C"⟩, ⟨0xA59, 2, "ਖ\u0A3Cਗ\u0A3Cਜ\u0A3C"⟩,
   ⟨0xA5E, 2, "ਫ\u0A3C"⟩, ⟨0xB48, 2, "\u0B47\u0B56"⟩, ⟨0xB4B, 2, "\u0B47\u0B3E\u0B47\u0B57"⟩,
   ⟨0xB5C, 2, "ଡ\u0B3Cଢ\u0B3C"⟩, ⟨0xB94, 2, "ஒ\u0BD7"⟩,
   ⟨0xBCA, 2, "\u0BC6\u0BBE\u0BC7\u0BBE\u0BC6\u0BD7"⟩, ⟨0xC48, 2, "\u0C46\u0C56"⟩,
   ⟨0xCC0, 2, "\u0CBF\u0CD5"⟩, ⟨0xCC7, 2, "\u0CC6\u0CD5\u0CC6\u0CD6"⟩, ⟨0xCCA, 2, "\u0CC6\u0CC2"⟩,
   ⟨0xCCB, 3, "\u0CC6\u0CC2\u0CD5"⟩, ⟨0xD4A, 2, "\u0D46\u0D3E\u0D47\u0D3E\u0D46\u0D57"⟩,
   ⟨0xDDA, 2, "\u0DD9\u0DCA"⟩, ⟨0xDDC, 2, "\u0DD9\u0DCF"⟩, ⟨0xDDD, 3, "\u0DD9\u0DCF\u0DCA"⟩,
   ⟨0xDDE, 2, "\u0DD9\u0DDF"⟩, ⟨0xE33, 2, "\u0E4Dา"⟩, ⟨0xEB3, 2, "\u0ECDາ"⟩, ⟨0xEDC, 2, "ຫນຫມ"⟩,
   ⟨0xF0C, 1, "་"⟩, ⟨0xF43, 2, "ག\u0FB7"⟩, ⟨0xF4D, 2, "ཌ\u0FB7"⟩, ⟨0xF52, 2, "ད\u0FB7"⟩,
   ⟨0xF57, 2, "བ\u0FB7"⟩, ⟨0xF5C, 2, "ཛ\u0FB7"⟩, ⟨0xF69, 2, "ཀ\u0FB5"⟩, ⟨0xF73, 2, "\u0F71\u0F72"⟩,
   ⟨0xF75, 2, "\u0F71\u0F74\u0FB2\u0F80"⟩, ⟨0xF77, 3, "\u0FB2\u0F71\u0F80"⟩,
   ⟨0xF78, 2, "\u0FB3\u0F80"⟩, ⟨0xF79, 3, "\u0FB3\u0F71\u0F80"⟩, ⟨0xF81, 2, "\u0F71\u0F80"⟩,
   ⟨0xF93, 2, "\u0F92\u0FB7"⟩, ⟨0xF9D, 2, "\u0F9C\u0FB7"⟩, ⟨0xFA2, 2, "\u0FA1\u0FB7"⟩,
   ⟨0xFA7, 2, "\u0FA6\u0FB7"⟩, ⟨0xFAC, 2, "\u0FAB\u0FB7"⟩, ⟨0xFB9, 2, "\u0F90\u0FB5"⟩,
   ⟨0x1026, 2, "ဥ\u102E"⟩, ⟨0x1E00, 2, "A\u0325a\u0325B\u0307b\u0307B\u0323b\u0323B\u0331b\u0331"⟩,
   ⟨0x1E08, 3, "C\u0327\u0301c\u0327\u0301"⟩,
   ⟨0x1E0A, 2, "D\u0307d\u0307D\u0323d\u0323D\u0331d\u0331D\u0327d\u0327D\u032Dd\u032D"⟩,
   ⟨0x1E14, 3, "E\u0304\u0300e\u0304\u0300E\u0304\u0301e\u0304\u0301"⟩,
   ⟨0x1E18, 2, "E\u032De\u032DE\u0330e\u0330"⟩, ⟨0x1E1C, 3, "E\u0327\u0306e\u0327\u0306"⟩,
   ⟨0x1E1E, 2, "F\u0307f\u0307G\u0304g\u0304H\u0307h\u0307H\u0323h\u0323H\u0308h\u0308H" ++
    "\u0327h\u0327H\u032Eh\u032EI\u0330i\u0330"⟩,
   ⟨0x1E2E, 3, "I\u0308\u0301i\u0308\u0301"⟩,
   ⟨0x1E30, 2, "K\u0301k\u0301K\u0323k\u0323K\u0331k\u0331L\u0323l\u0323"⟩,
   ⟨0x1E38, 3, "L\u0323\u0304l\u0323\u0304"⟩,
   ⟨0x1E3A, 2, "L\u0331l\u0331L\u032Dl\u032DM\u0301m\u0301M\u0307m\u0307M\u0323m\u0323N" ++
    "\u0307n\u0307N\u0323n\u0323N\u0331n\u0331N\u032Dn\u032D"⟩,
   ⟨0x1E4C, 3, "O\u0303\u0301o\u0303\u0301O\u0303\u0308o\u0303\u0308O\u0304\u0300o\u0304" ++
    "\u0300O\u0304\u0301o\u0304\u0301"⟩,
   ⟨0x1E54, 2, "P\u0301p\u0301P\u0307p\u0307R\u0307r\u0307R\u0323r\u0323"⟩,
   ⟨0x1E5C, 3, "R\u0323\u0304r\u0323\u0304"⟩,
   ⟨0x1E5E, 2, "R\u0331r\u0331S\u0307s\u0307S\u0323s\u0323"⟩,
   ⟨0x1E64, 3, "S\u0301\u0307s\u0301\u0307S\u030C\u0307s\u030C\u0307S\u0323\u0307s\u0323" ++
    "\u0307"⟩,
   ⟨0x1E6A, 2, "T\u0307t\u0307T\u0323t\u0323T\u0331t\u0331T\u032Dt\u032DU\u0324u\u0324U" ++
    "\u0330u\u0330U\u032Du\u032D"⟩,
   ⟨0x1E78, 3, "U\u0303\u0301u\u0303\u0301U\u0304\u0308u\u0304\u0308"⟩,
   ⟨0x1E7C, 2, "V\u0303v\u0303V\u0323v\u0323W\u0300w\u0300W\u0301w\u0301W\u0308w\u0308W" ++
    "\u0307w\u0307W\u0323w\u0323X\u0307x\u0307X\u0308x\u0308Y\u0307y\u0307Z" ++
    "\u0302z\u0302Z\u0323z\u0323Z\u0331z\u0331h\u0331t\u0308w\u030Ay\u030Aa" ++
    "\u02BEs\u0307"⟩,
   ⟨0x1EA0, 2, "A\u0323a\u0323A\u0309a\u0309"⟩,
   ⟨0x1EA4, 3, "A\u0302\u0301a\u0302\u0301A\u0302\u0300a\u0302\u0300A\u0302\u0309a\u0302" ++
    "\u0309A\u0302\u0303a\u0302\u0303A\u0323\u0302a\u0323\u0302A\u0306\u0301a" ++
    "\u0306\u0301A\u0306\u0300a\u0306\u0300A\u0306\u0309a\u0306\u0309A\u0306" ++
    "\u0303a\u0306\u0303A\u0323\u0306a\u0323\u0306"⟩,
   ⟨0x1EB8, 2, "E\u0323e\u0323E\u0309e\u0309E\u0303e\u0303"⟩,
   ⟨0x1EBE, 3, "E\u0302\u0301e\u0302\u0301E\u0302\u0300e\u0302\u0300E\u0302\u0309e\u0302" ++
    "\u0309E\u0302\u0303e\u0302\u0303E\u0323\u0302e\u0323\u0302"⟩,
   ⟨0x1EC8, 2, "I\u0309i\u0309I\u0323i\u0323O\u0323o\u0323O\u0309o\u0309"⟩,
   ⟨0x1ED0, 3, "O\u0302\u0301o\u0302\u0301O\u0302\u0300o\u0302\u0300O\u0302\u0309o\u0302" ++
    "\u0309O\u0302\u0303o\u0302\u0303O\u0323\u0302o\u0323\u0302O\u031B\u0301o" ++
    "\u031B\u0301O\u031B\u0300o\u031B\u0300O\u031B\u0309o\u031B\u0309O\u031B" ++
    "\u0303o\u031B\u0303O\u031B\u0323o\u031B\u0323"⟩,
   ⟨0x1EE4, 2, "U\u0323u\u0323U\u0309u\u0309"⟩,
   ⟨0x1EE8, 3, "U\u031B\u0301u\u031B\u0301U\u031B\u0300u\u031B\u0300U\u031B\u0309u\u031B" ++
    "\u0309U\u031B\u0303u\u031B\u0303U\u031B\u0323u\u031B\u0323"⟩,
   ⟨0x1EF2, 2, "Y\u0300y\u0300Y\u0323y\u0323Y\u0309y\u0309Y\u0303y\u0303"⟩,
   ⟨0x1F00, 2, "α\u0313α\u0314"⟩,
   ⟨0x1F02, 3, "α\u0313\u0300α\u0314\u0300α\u0313\u0301α\u0314\u0301α\u0313\u0342α\u0314" ++
    "\u0342"⟩,
   ⟨0x1F08, 2, "Α\u0313Α\u0314"⟩,
   ⟨0x1F0A, 3, "Α\u0313\u0300Α\u0314\u0300Α\u0313\u0301Α\u0314\u0301Α\u0313\u0342Α\u0314" ++
    "\u0342"⟩,
   ⟨0x1F10, 2, "ε\u0313ε\u0314"⟩,
   ⟨0x1F12, 3, "ε\u0313\u0300ε\u0314\u0300ε\u0313\u0301ε\u0314\u0301"⟩,
   ⟨0x1F18, 2, "Ε\u0313Ε\u0314"⟩,
   ⟨0x1F1A, 3, "Ε\u0313\u0300Ε\u0314\u0300Ε\u0313\u0301Ε\u0314\u0301"⟩,
   ⟨0x1F20, 2, "η\u0313η\u0314"⟩,
   ⟨0x1F22, 3, "η\u0313\u0300η\u0314\u0300η\u0313\u0301η\u0314\u0301η\u0313\u0342η\u0314" ++
    "\u0342"⟩,
   ⟨0x1F28, 2, "Η\u0313Η\u0314"⟩,
   ⟨0x1F2A, 3, "Η\u0313\u0300Η\u0314\u0300Η\u0313\u0301Η\u0314\u0301Η\u0313\u0342Η\u0314" ++
    "\u0342"⟩,
   ⟨0x1F30, 2, "ι\u0313ι\u0314"⟩,
   ⟨0x1F32, 3, "ι\u0313\u0300ι\u0314\u0300ι\u0313\u0301ι\u0314\u0301ι\u0313\u0342ι\u0314" ++
    "\u0342"⟩,
   ⟨0x1F38, 2, "Ι\u0313Ι\u0314"⟩,
   ⟨0x1F3A, 3, "Ι\u0313\u0300Ι\u0314\u0300Ι\u0313\u0301Ι\u0314\u0301Ι\u0313\u0342Ι\u0314" ++
    "\u0342"⟩,
   ⟨0x1F40, 2, "ο\u0313ο\u0314"⟩,
   ⟨0x1F42, 3, "ο\u0313\u0300ο\u0314\u0300ο\u0313\u0301ο\u0314\u0301"⟩,
   ⟨0x1F48, 2, "Ο\u0313Ο\u0314"⟩,
   ⟨0x1F4A, 3, "Ο\u0313\u0300Ο\u0314\u0300Ο\u0313\u0301Ο\u0314\u0301"⟩,
   ⟨0x1F50, 2, "υ\u0313υ\u0314"⟩,
   ⟨0x1F52, 3, "υ\u0313\u0300υ\u0314\u0300υ\u0313\u0301υ\u0314\u0301υ\u0313\u0342υ\u0314" ++
    "\u0342"⟩,
   ⟨0x1F59, 2, "Υ\u0314"⟩, ⟨0x1F5B, 3, "Υ\u0314\u0300"⟩, ⟨0x1F5D, 3, "Υ\u0314\u0301"⟩,
   ⟨0x1F5F, 3, "Υ\u0314\u0342"⟩, ⟨0x1F60, 2, "ω\u0313ω\u0314"⟩,
   ⟨0x1F62, 3, "ω\u0313\u0300ω\u0314\u0300ω\u0313\u0301ω\u0314\u0301ω\u0313\u0342ω\u0314" ++
    "\u0342"⟩,
   ⟨0x1F68, 2, "Ω\u0313Ω\u0314"⟩,
   ⟨0x1F6A, 3, "Ω\u0313\u0300Ω\u0314\u0300Ω\u0313\u0301Ω\u0314\u0301Ω\u0313\u0342Ω\u0314" ++
    "\u0342"⟩,
   ⟨0x1F70, 2, "α\u0300α\u0301ε\u0300ε\u0301η\u0300η\u0301ι\u0300ι\u0301ο\u0300ο\u0301υ" ++
    "\u0300υ\u0301ω\u0300ω\u0301"⟩,
   ⟨0x1F80, 3, "α\u0313\u0345α\u0314\u0345"⟩,
   ⟨0x1F82, 4, "α\u0313\u0300\u0345α\u0314\u0300\u0345α\u0313\u0301\u0345α\u0314\u0301" ++
    "\u0345α\u0313\u0342\u0345α\u0314\u0342\u0345"⟩,
   ⟨0x1F88, 3, "Α\u0313\u0345Α\u0314\u0345"⟩,
   ⟨0x1F8A, 4, "Α\u0313\u0300\u0345Α\u0314\u0300\u0345Α\u0313\u0301\u0345Α\u0314\u0301" ++
    "\u0345Α\u0313\u0342\u0345Α\u0314\u0342\u0345"⟩,
   ⟨0x1F90, 3, "η\u0313\u0345η\u0314\u0345"⟩,
   ⟨0x1F92, 4, "η\u0313\u0300\u0345η\u0314\u0300\u0345η\u0313\u0301\u0345η\u0314\u0301" ++
    "\u0345η\u0313\u0342\u0345η\u0314\u0342\u0345"⟩,
   ⟨0x1F98, 3, "Η\u0313\u0345Η\u0314\u0345"⟩,
   ⟨0x1F9A, 4, "Η\u0313\u0300\u0345Η\u0314\u0300\u0345Η\u0313\u0301\u0345Η\u0314\u0301" ++
    "\u0345Η\u0313\u0342\u0345Η\u0314\u0342\u0345"⟩,
   ⟨0x1FA0, 3, "ω\u0313\u0345ω\u0314\u0345"⟩,
   ⟨0x1FA2, 4, "ω\u0313\u0300\u0345ω\u0314\u0300\u0345ω\u0313\u0301\u0345ω\u0314\u0301" ++
    "\u0345ω\u0313\u0342\u0345ω\u0314\u0342\u0345"⟩,
   ⟨0x1FA8, 3, "Ω\u0313\u0345Ω\u0314\u0345"⟩,
   ⟨0x1FAA, 4, "Ω\u0313\u0300\u0345Ω\u0314\u0300\u0345Ω\u0313\u0301\u0345Ω\u0314\u0301" ++
    "\u0345Ω\u0313\u0342\u0345Ω\u0314\u0342\u0345"⟩,
   ⟨0x1FB0, 2, "α\u0306α\u0304"⟩, ⟨0x1FB2, 3, "α\u0300\u0345"⟩, ⟨0x1FB3, 2, "α\u0345"⟩,
   ⟨0x1FB4, 3, "α\u0301\u0345"⟩, ⟨0x1FB6, 2, "α\u0342"⟩, ⟨0x1FB7, 3, "α\u0342\u0345"⟩,
   ⟨0x1FB8, 2, "Α\u0306Α\u0304Α\u0300Α\u0301Α\u0345 \u0313"⟩, ⟨0x1FBE, 1, "ι"⟩,
   ⟨0x1FBF, 2, " \u0313 \u0342"⟩, ⟨0x1FC1, 3, " \u0308\u0342η\u0300\u0345"⟩, ⟨0x1FC3, 2, "η\u0345"⟩,
   ⟨0x1FC4, 3, "η\u0301\u0345"⟩, ⟨0x1FC6, 2, "η\u0342"⟩, ⟨0x1FC7, 3, "η\u0342\u0345"⟩,
   ⟨0x1FC8, 2, "Ε\u0300Ε\u0301Η\u0300Η\u0301Η\u0345"⟩,
   ⟨0x1FCD, 3, " \u0313\u0300 \u0313\u0301 \u0313\u0342"⟩, ⟨0x1FD0, 2, "ι\u0306ι\u0304"⟩,
   ⟨0x1FD2, 3, "ι\u0308\u0300ι\u0308\u0301"⟩, ⟨0x1FD6, 2, "ι\u0342"⟩, ⟨0x1FD7, 3, "ι\u0308\u0342"⟩,
   ⟨0x1FD8, 2, "Ι\u0306Ι\u0304Ι\u0300Ι\u0301"⟩,
   ⟨0x1FDD, 3, " \u0314\u0300 \u0314\u0301 \u0314\u0342"⟩, ⟨0x1FE0, 2, "υ\u0306υ\u0304"⟩,
   ⟨0x1FE2, 3, "υ\u0308\u0300υ\u0308\u0301"⟩, ⟨0x1FE4, 2, "ρ\u0313ρ\u0314υ\u0342"⟩,
   ⟨0x1FE7, 3, "υ\u0308\u0342"⟩, ⟨0x1FE8, 2, "Υ\u0306Υ\u0304Υ\u0300Υ\u0301Ρ\u0314"⟩,
   ⟨0x1FED, 3, " \u0308\u0300 \u0308\u0301"⟩, ⟨0x1FEF, 1, "\x60"⟩, ⟨0x1FF2, 3, "ω\u0300\u0345"⟩,
   ⟨0x1FF3, 2, "ω\u0345"⟩, ⟨0x1FF4, 3, "ω\u0301\u0345"⟩, ⟨0x1FF6, 2, "ω\u0342"⟩,
   ⟨0x1FF7, 3, "ω\u0342\u0345"⟩, ⟨0x1FF8, 2, "Ο\u0300Ο\u0301Ω\u0300Ω\u0301Ω\u0345 \u0301 \u0314"⟩,
   ⟨0x2000, 1, "           "⟩, ⟨0x2011, 1, "‐"⟩, ⟨0x2017, 2, " \u0333"⟩, ⟨0x2024, 1, "."⟩,
   ⟨0x2025, 2, ".."⟩, ⟨0x2026, 3, "..."⟩, ⟨0x202F, 1, " "⟩, ⟨0x2033, 2, "′′"⟩, ⟨0x2034, 3, "′′′"⟩,
   ⟨0x2036, 2, "‵‵"⟩, ⟨0x2037, 3, "‵‵‵"⟩, ⟨0x203C, 2, "!!"⟩, ⟨0x203E, 2, " \u0305"⟩,
   ⟨0x2047, 2, "???!!?"⟩, ⟨0x2057, 4, "′′′′"⟩, ⟨0x205F, 1, " "⟩, ⟨0x2070, 1, "0i"⟩,
   ⟨0x2074, 1, "456789+−=()n0123456789+−=()"⟩, ⟨0x20A8, 2, "Rs"⟩, ⟨0x2100, 3, "a\x2fca\x2fs"⟩,
   ⟨0x2102, 1, "C"⟩, ⟨0x2103, 2, "°C"⟩, ⟨0x2105, 3, "c\x2foc\x2fu"⟩, ⟨0x2107, 1, "Ɛ"⟩,
   ⟨0x2109, 2, "°F"⟩, ⟨0x210A, 1, "gHHHhħIILl"⟩, ⟨0x2115, 1, "N"⟩, ⟨0x2116, 2, "No"⟩,
   ⟨0x2119, 1, "PQRRR"⟩, ⟨0x2120, 2, "SM"⟩, ⟨0x2121, 3, "TEL"⟩, ⟨0x2122, 2, "TM"⟩, ⟨0x2124, 1, "Z"⟩,
   ⟨0x2126, 1, "Ω"⟩, ⟨0x2128, 1, "Z"⟩, ⟨0x212A, 1, "K"⟩, ⟨0x212B, 2, "A\u030A"⟩, ⟨0x212C, 1, "BC"⟩,
   ⟨0x212F, 1, "eEF"⟩, ⟨0x2133, 1, "Mo\u05D0\u05D1\u05D2\u05D3i"⟩, ⟨0x213D, 1, "γΓΠ∑"⟩,
   ⟨0x2145, 1, "Ddeij"⟩, ⟨0x2153, 3, "1⁄32⁄31⁄52⁄53⁄54⁄51⁄65⁄61⁄83⁄85⁄87⁄8"⟩, ⟨0x215F, 2, "1⁄"⟩,
   ⟨0x2160, 1, "I"⟩, ⟨0x2161, 2, "II"⟩, ⟨0x2162, 3, "III"⟩, ⟨0x2163, 2, "IV"⟩, ⟨0x2164, 1, "V"⟩,
   ⟨0x2165, 2, "VI"⟩, ⟨0x2166, 3, "VII"⟩, ⟨0x2167, 4, "VIII"⟩, ⟨0x2168, 2, "IX"⟩, ⟨0x2169, 1, "X"⟩,
   ⟨0x216A, 2, "XI"⟩, ⟨0x216B, 3, "XII"⟩, ⟨0x216C, 1, "LCDMi"⟩, ⟨0x2171, 2, "ii"⟩,
   ⟨0x2172, 3, "iii"⟩, ⟨0x2173, 2, "iv"⟩, ⟨0x2174, 1, "v"⟩, ⟨0x2175, 2, "vi"⟩, ⟨0x2176, 3, "vii"⟩,
   ⟨0x2177, 4, "viii"⟩, ⟨0x2178, 2, "ix"⟩, ⟨0x2179, 1, "x"⟩, ⟨0x217A, 2, "xi"⟩, ⟨0x217B, 3, "xii"⟩,
   ⟨0x217C, 1, "lcdm"⟩, ⟨0x219A, 2, "←\u0338→\u0338"⟩, ⟨0x21AE, 2, "↔\u0338"⟩,
   ⟨0x21CD, 2, "⇐\u0338⇔\u0338⇒\u0338"⟩, ⟨0x2204, 2, "∃\u0338"⟩, ⟨0x2209, 2, "∈\u0338"⟩,
   ⟨0x220C, 2, "∋\u0338"⟩, ⟨0x2224, 2, "∣\u0338"⟩, ⟨0x2226, 2, "∥\u0338"⟩, ⟨0x222C, 2, "∫∫"⟩,
   ⟨0x222D, 3, "∫∫∫"⟩, ⟨0x222F, 2, "∮∮"⟩, ⟨0x2230, 3, "∮∮∮"⟩, ⟨0x2241, 2, "∼\u0338"⟩,
   ⟨0x2244, 2, "≃\u0338"⟩, ⟨0x2247, 2, "≅\u0338"⟩, ⟨0x2249, 2, "≈\u0338"⟩, ⟨0x2260, 2, "=\u0338"⟩,
   ⟨0x2262, 2, "≡\u0338"⟩, ⟨0x226D, 2, "≍\u0338<\u0338>\u0338≤\u0338≥\u0338"⟩,
   ⟨0x2274, 2, "≲\u0338≳\u0338"⟩, ⟨0x2278, 2, "≶\u0338≷\u0338"⟩, ⟨0x2280, 2, "≺\u0338≻\u0338"⟩,
   ⟨0x2284, 2, "⊂\u0338⊃\u0338"⟩, ⟨0x2288, 2, "⊆\u0338⊇\u0338"⟩,
   ⟨0x22AC, 2, "⊢\u0338⊨\u0338⊩\u0338⊫\u0338"⟩, ⟨0x22E0, 2, "≼\u0338≽\u0338⊑\u0338⊒\u0338"⟩,
   ⟨0x22EA, 2, "⊲\u0338⊳\u0338⊴\u0338⊵\u0338"⟩, ⟨0x2329, 1, "〈〉"⟩, ⟨0x2460, 1, "123456789"⟩,
   ⟨0x2469, 2, "1011121314151617181920"⟩, ⟨0x2474, 3, "(1)(2)(3)(4)(5)(6)(7)(8)(9)"⟩,
   ⟨0x247D, 4, "(10)(11)(12)(13)(14)(15)(16)(17)(18)(19)(20)"⟩, ⟨0x2488, 2, "1.2.3.4.5.6.7.8.9."⟩,
   ⟨0x2491, 3, "10.11.12.13.14.15.16.17.18.19.20.(a)(b)(c)(d)(e)(f)(g)(h)(i)(j)(k)(l)(m)(n" ++
    ")(o)(p)(q)(r)(s)(t)(u)(v)(w)(x)(y)(z)"⟩,
   ⟨0x24B6, 1, "ABCDEFGHIJKLMNOPQRSTUVWXYZabcdefghijklmnopqrstuvwxyz0"⟩, ⟨0x2A0C, 4, "∫∫∫∫"⟩,
   ⟨0x2A74, 3, "::="⟩, ⟨0x2A75, 2, "=="⟩, ⟨0x2A76, 3, "==="⟩, ⟨0x2ADC, 2, "⫝\u0338"⟩,
   ⟨0x2E9F, 1, "母"⟩, ⟨0x2EF3, 1, "龟"⟩,
   ⟨0x2F00, 1, "一丨丶丿乙亅二亠人儿入八冂冖冫几凵刀力勹匕匚匸十卜卩厂厶又口囗土士夂夊夕大女子宀寸小尢尸屮山巛工己巾干幺广廴廾弋弓彐彡彳心戈戶手支攴文斗斤方无日曰月" ++
    "木欠止歹殳毋比毛氏气水火爪父爻爿片牙牛犬玄玉瓜瓦甘生用田疋疒癶白皮皿目矛矢石示禸禾穴立竹米糸缶网羊羽老而耒耳聿肉臣自至臼舌舛舟艮色艸虍虫血行衣襾見角" ++
    "言谷豆豕豸貝赤走足身車辛辰辵邑酉釆里金長門阜隶隹雨靑非面革韋韭音頁風飛食首香馬骨高髟鬥鬯鬲鬼魚鳥鹵鹿麥麻黃黍黑黹黽鼎鼓鼠鼻齊齒龍龜龠"⟩,
   ⟨0x3000, 1, " "⟩, ⟨0x3036, 1, "〒"⟩, ⟨0x3038, 1, "十卄卅"⟩, ⟨0x304C, 2, "か\u3099"⟩,
   ⟨0x304E, 2, "き\u3099"⟩, ⟨0x3050, 2, "く\u3099"⟩, ⟨0x3052, 2, "け\u3099"⟩, ⟨0x3054, 2, "こ\u3099"⟩,
   ⟨0x3056, 2, "さ\u3099"⟩, ⟨0x3058, 2, "し\u3099"⟩, ⟨0x305A, 2, "す\u3099"⟩, ⟨0x305C, 2, "せ\u3099"⟩,
   ⟨0x305E, 2, "そ\u3099"⟩, ⟨0x3060, 2, "た\u3099"⟩, ⟨0x3062, 2, "ち\u3099"⟩, ⟨0x3065, 2, "つ\u3099"⟩,
   ⟨0x3067, 2, "て\u3099"⟩, ⟨0x3069, 2, "と\u3099"⟩, ⟨0x3070, 2, "は\u3099は\u309A"⟩,
   ⟨0x3073, 2, "ひ\u3099ひ\u309A"⟩, ⟨0x3076, 2, "ふ\u3099ふ\u309A"⟩, ⟨0x3079, 2, "へ\u3099へ\u309A"⟩,
   ⟨0x307C, 2, "ほ\u3099ほ\u309A"⟩, ⟨0x3094, 2, "う\u3099"⟩, ⟨0x309B, 2, " \u3099 \u309A"⟩,
   ⟨0x309E, 2, "ゝ\u3099より"⟩, ⟨0x30AC, 2, "カ\u3099"⟩, ⟨0x30AE, 2, "キ\u3099"⟩, ⟨0x30B0, 2, "ク\u3099"⟩,
   ⟨0x30B2, 2, "ケ\u3099"⟩, ⟨0x30B4, 2, "コ\u3099"⟩, ⟨0x30B6, 2, "サ\u3099"⟩, ⟨0x30B8, 2, "シ\u3099"⟩,
   ⟨0x30BA, 2, "ス\u3099"⟩, ⟨0x30BC, 2, "セ\u3099"⟩, ⟨0x30BE, 2, "ソ\u3099"⟩, ⟨0x30C0, 2, "タ\u3099"⟩,
   ⟨0x30C2, 2, "チ\u3099"⟩, ⟨0x30C5, 2, "ツ\u3099"⟩, ⟨0x30C7, 2, "テ\u3099"⟩, ⟨0x30C9, 2, "ト\u3099"⟩,
   ⟨0x30D0, 2, "ハ\u3099ハ\u309A"⟩, ⟨0x30D3, 2, "ヒ\u3099ヒ\u309A"⟩, ⟨0x30D6, 2, "フ\u3099フ\u309A"⟩,
   ⟨0x30D9, 2, "ヘ\u3099ヘ\u309A"⟩, ⟨0x30DC, 2, "ホ\u3099ホ\u309A"⟩, ⟨0x30F4, 2, "ウ\u3099"⟩,
   ⟨0x30F7, 2, "ワ\u3099ヰ\u3099ヱ\u3099ヲ\u3099"⟩, ⟨0x30FE, 2, "ヽ\u3099コト"⟩,
   ⟨0x3131, 1, "ᄀᄁᆪᄂᆬᆭᄃᄄᄅᆰᆱᆲᆳᆴᆵᄚᄆᄇᄈᄡᄉᄊᄋᄌᄍᄎᄏᄐᄑ하ᅢᅣᅤᅥᅦᅧᅨᅩᅪᅫᅬᅭᅮᅯᅰᅱᅲᅳᅴᅵᅠᄔᄕᇇᇈᇌᇎᇓᇗᇙᄜᇝᇟᄝᄞᄠᄢᄣᄧᄩᄫᄬᄭ" ++
    "ᄮᄯᄲᄶᅀᅇᅌᇱᇲᅗᅘᅙᆄᆅᆈᆑᆒᆔᆞᆡ"⟩,
   ⟨0x3192, 1, "一二三四上中下甲乙丙丁天地人"⟩, ⟨0x3200, 3, "(ᄀ)(ᄂ)(ᄃ)(ᄅ)(ᄆ)(ᄇ)(ᄉ)(ᄋ)(ᄌ)(ᄎ)(ᄏ)(ᄐ)(ᄑ)(ᄒ)"⟩,
   ⟨0x320E, 4, "(가)(나)(다)(라)(마)(바)(사)(아)(자)(차)(카)(타)(파)(하)(주)"⟩,
   ⟨0x3220, 3, "(一)(二)(三)(四)(五)(六)(七)(八)(九)(十)(月)(火)(水)(木)(金)(土)(日)(株)(有)(社)(名)(特)(財)(祝)(労" ++
    ")(代)(呼)(学)(監)(企)(資)(協)(祭)(休)(自)(至)"⟩,
   ⟨0x3251, 2, "212223242526272829303132333435"⟩, ⟨0x3260, 1, "ᄀᄂᄃᄅᄆᄇᄉᄋᄌᄎᄏᄐᄑᄒ"⟩,
   ⟨0x326E, 2, "가나다라마바사아자차카타파하"⟩,
   ⟨0x3280, 1, "一二三四五六七八九十月火水木金土日株有社名特財祝労秘男女適優印注項休写正上中下左右医宗学監企資協夜"⟩,
   ⟨0x32B1, 2, "3637383940414243444546474849501月2月3月4月5月6月7月8月9月"⟩, ⟨0x32C9, 3, "10月11月12月"⟩,
   ⟨0x32D0, 1, "アイウエオカキクケコサシスセソタチツテトナニヌネノハヒフヘホマミムメモヤユヨラリルレロワヰヱヲ"⟩, ⟨0x3300, 5, "アハ\u309Aート"⟩,
   ⟨0x3301, 4, "アルファ"⟩, ⟨0x3302, 5, "アンヘ\u309Aア"⟩, ⟨0x3303, 3, "アール"⟩, ⟨0x3304, 5, "イニンク\u3099"⟩,
   ⟨0x3305, 3, "インチウォン"⟩, ⟨0x3307, 6, "エスクート\u3099"⟩, ⟨0x3308, 4, "エーカー"⟩, ⟨0x3309, 3, "オンスオームカイリ"⟩,
   ⟨0x330C, 4, "カラットカロリーカ\u3099ロンカ\u3099ンマキ\u3099カ\u3099キ\u3099ニーキュリー"⟩,
   ⟨0x3313, 6, "キ\u3099ルタ\u3099ー"⟩, ⟨0x3314, 2, "キロ"⟩, ⟨0x3315, 6, "キロク\u3099ラムキロメートル"⟩,
   ⟨0x3317, 5, "キロワット"⟩, ⟨0x3318, 4, "ク\u3099ラム"⟩, ⟨0x3319, 6, "ク\u3099ラムトンクルセ\u3099イロ"⟩,
   ⟨0x331B, 4, "クローネ"⟩, ⟨0x331C, 3, "ケースコルナ"⟩, ⟨0x331E, 4, "コーホ\u309Aサイクル"⟩,
   ⟨0x3320, 5, "サンチームシリンク\u3099"⟩, ⟨0x3322, 3, "センチセント"⟩, ⟨0x3324, 4, "タ\u3099ース"⟩,
   ⟨0x3325, 3, "テ\u3099シト\u3099ル"⟩, ⟨0x3327, 2, "トンナノ"⟩, ⟨0x3329, 3, "ノットハイツ"⟩,
   ⟨0x332B, 6, "ハ\u309Aーセント"⟩, ⟨0x332C, 4, "ハ\u309Aーツ"⟩, ⟨0x332D, 5, "ハ\u3099ーレル"⟩,
   ⟨0x332E, 6, "ヒ\u309Aアストル"⟩, ⟨0x332F, 4, "ヒ\u309Aクル"⟩, ⟨0x3330, 3, "ヒ\u309Aコヒ\u3099ル"⟩,
   ⟨0x3332, 6, "ファラット\u3099"⟩, ⟨0x3333, 4, "フィート"⟩, ⟨0x3334, 6, "フ\u3099ッシェル"⟩, ⟨0x3335, 3, "フラン"⟩,
   ⟨0x3336, 5, "ヘクタール"⟩, ⟨0x3337, 3, "ヘ\u309Aソ"⟩, ⟨0x3338, 4, "ヘ\u309Aニヒ"⟩, ⟨0x3339, 3, "ヘルツ"⟩,
   ⟨0x333A, 4, "ヘ\u309Aンス"⟩, ⟨0x333B, 5, "ヘ\u309Aーシ\u3099"⟩, ⟨0x333C, 4, "ヘ\u3099ータ"⟩,
   ⟨0x333D, 5, "ホ\u309Aイント"⟩, ⟨0x333E, 4, "ホ\u3099ルト"⟩, ⟨0x333F, 2, "ホン"⟩,
   ⟨0x3340, 5, "ホ\u309Aント\u3099"⟩, ⟨0x3341, 3, "ホールホーン"⟩, ⟨0x3343, 4, "マイクロ"⟩,
   ⟨0x3344, 3, "マイルマッハマルク"⟩, ⟨0x3347, 5, "マンション"⟩, ⟨0x3348, 4, "ミクロン"⟩, ⟨0x3349, 2, "ミリ"⟩,
   ⟨0x334A, 6, "ミリハ\u3099ール"⟩, ⟨0x334B, 3, "メカ\u3099"⟩, ⟨0x334C, 5, "メカ\u3099トン"⟩,
   ⟨0x334D, 4, "メートルヤート\u3099"⟩, ⟨0x334F, 3, "ヤールユアン"⟩, ⟨0x3351, 4, "リットル"⟩, ⟨0x3352, 2, "リラ"⟩,
   ⟨0x3353, 4, "ルヒ\u309Aー"⟩, ⟨0x3354, 5, "ルーフ\u3099ル"⟩, ⟨0x3355, 2, "レム"⟩,
   ⟨0x3356, 6, "レントケ\u3099ン"⟩, ⟨0x3357, 3, "ワット"⟩, ⟨0x3358, 2, "0点1点2点3点4点5点6点7点8点9点"⟩,
   ⟨0x3362, 3, "10点11点12点13点14点15点16点17点18点19点20点21点22点23点24点hPa"⟩, ⟨0x3372, 2, "daAU"⟩,
   ⟨0x3374, 3, "bar"⟩, ⟨0x3375, 2, "oVpc"⟩, ⟨0x337B, 2, "平成昭和大正明治"⟩, ⟨0x337F, 4, "株式会社"⟩,
   ⟨0x3380, 2, "pAnAμAmAkAKBMBGB"⟩, ⟨0x3388, 3, "cal"⟩, ⟨0x3389, 4, "kcal"⟩,
   ⟨0x338A, 2, "pFnFμFμgmgkgHz"⟩, ⟨0x3391, 3, "kHzMHzGHzTHz"⟩, ⟨0x3395, 2, "μlmldlklfmnmμmmmcmkm"⟩,
   ⟨0x339F, 3, "mm2cm2"⟩, ⟨0x33A1, 2, "m2"⟩, ⟨0x33A2, 3, "km2mm3cm3"⟩, ⟨0x33A5, 2, "m3"⟩,
   ⟨0x33A6, 3, "km3m∕s"⟩, ⟨0x33A8, 4, "m∕s2"⟩, ⟨0x33A9, 2, "Pa"⟩, ⟨0x33AA, 3, "kPaMPaGParad"⟩,
   ⟨0x33AE, 5, "rad∕s"⟩, ⟨0x33AF, 6, "rad∕s2"⟩, ⟨0x33B0, 2, "psnsμsmspVnVμVmVkVMVpWnWμWmWkWMWkΩMΩ"⟩,
   ⟨0x33C2, 4, "a.m."⟩, ⟨0x33C3, 2, "Bqcccd"⟩, ⟨0x33C6, 4, "C∕kg"⟩, ⟨0x33C7, 3, "Co."⟩,
   ⟨0x33C8, 2, "dBGyhaHPinKKKMktlmln"⟩, ⟨0x33D2, 3, "log"⟩, ⟨0x33D3, 2, "lxmb"⟩,
   ⟨0x33D5, 3, "milmol"⟩, ⟨0x33D7, 2, "PH"⟩, ⟨0x33D8, 4, "p.m."⟩, ⟨0x33D9, 3, "PPM"⟩,
   ⟨0x33DA, 2, "PRsrSvWb"⟩, ⟨0x33E0, 2, "1日2日3日4日5日6日7日8日9日"⟩,
   ⟨0x33E9, 3, "10日11日12日13日14日15日16日17日18日19日20日21日22日23日24日25日26日27日28日29日30日31日"⟩,
   ⟨0xF900, 1, "豈更車賈滑串句龜龜契金喇奈懶癩羅蘿螺裸邏樂洛烙珞落酪駱亂卵欄爛蘭鸞嵐濫藍襤拉臘蠟廊朗浪狼郎來冷勞擄櫓爐盧老蘆虜路露魯鷺碌祿綠菉錄鹿論壟弄籠聾牢磊賂雷" ++
    "壘屢樓淚漏累縷陋勒肋凜凌稜綾菱陵讀拏樂諾丹寧怒率異北磻便復不泌數索參塞省葉說殺辰沈拾若掠略亮兩凉梁糧良諒量勵呂女廬旅濾礪閭驪麗黎力曆歷轢年憐戀撚漣煉" ++
    "璉秊練聯輦蓮連鍊列劣咽烈裂說廉念捻殮簾獵令囹寧嶺怜玲瑩羚聆鈴零靈領例禮醴隸惡了僚寮尿料樂燎療蓼遼龍暈阮劉杻柳流溜琉留硫紐類六戮陸倫崙淪輪律慄栗率隆利" ++
    "吏履易李梨泥理痢罹裏裡里離匿溺吝燐璘藺隣鱗麟林淋臨立笠粒狀炙識什茶刺切度拓糖宅洞暴輻行降見廓兀嗀"⟩,
   ⟨0xFA10, 1, "塚"⟩, ⟨0xFA12, 1, "晴"⟩, ⟨0xFA15, 1, "凞猪益礼神祥福靖精羽"⟩, ⟨0xFA20, 1, "蘒"⟩,
   ⟨0xFA22, 1, "諸"⟩, ⟨0xFA25, 1, "逸都"⟩, ⟨0xFA2A, 1, "飯飼館鶴"⟩,
   ⟨0xFA30, 1, "侮僧免勉勤卑喝嘆器塀墨層屮悔慨憎懲敏既暑梅海渚漢煮爫琢碑社祉祈祐祖祝禍禎穀突節練縉繁署者臭艹艹著褐視謁謹賓贈辶逸難響頻"⟩,
   ⟨0xFB00, 2, "fffifl"⟩, ⟨0xFB03, 3, "ffiffl"⟩, ⟨0xFB05, 2, "stst"⟩, ⟨0xFB13, 2, "մնմեմիվնմխ"⟩,
   ⟨0xFB1D, 2, "\u05D9\u05B4"⟩, ⟨0xFB1F, 2, "\u05F2\u05B7"⟩,
   ⟨0xFB20, 1, "\u05E2\u05D0\u05D3\u05D4\u05DB\u05DC\u05DD\u05E8\u05EA+"⟩,
   ⟨0xFB2A, 2, "\u05E9\u05C1\u05E9\u05C2"⟩, ⟨0xFB2C, 3, "\u05E9\u05BC\u05C1\u05E9\u05BC\u05C2"⟩,
   ⟨0xFB2E, 2, "\u05D0\u05B7\u05D0\u05B8\u05D0\u05BC\u05D1\u05BC\u05D2\u05BC\u05D3\u05BC" ++
    "\u05D4\u05BC\u05D5\u05BC\u05D6\u05BC"⟩,
   ⟨0xFB38, 2, "\u05D8\u05BC\u05D9\u05BC\u05DA\u05BC\u05DB\u05BC\u05DC\u05BC"⟩,
   ⟨0xFB3E, 2, "\u05DE\u05BC"⟩, ⟨0xFB40, 2, "\u05E0\u05BC\u05E1\u05BC"⟩,
   ⟨0xFB43, 2, "\u05E3\u05BC\u05E4\u05BC"⟩,
   ⟨0xFB46, 2, "\u05E6\u05BC\u05E7\u05BC\u05E8\u05BC\u05E9\u05BC\u05EA\u05BC\u05D5\u05B9" ++
    "\u05D1\u05BF\u05DB\u05BF\u05E4\u05BF\u05D0\u05DC"⟩,
   ⟨0xFB50, 1, "\u0671\u0671\u067B\u067B\u067B\u067B\u067E\u067E\u067E\u067E\u0680\u0680" ++
    "\u0680\u0680\u067A\u067A\u067A\u067A\u067F\u067F\u067F\u067F\u0679\u0679" ++
    "\u0679\u0679\u06A4\u06A4\u06A4\u06A4\u06A6\u06A6\u06A6\u06A6\u0684\u0684" ++
    "\u0684\u0684\u0683\u0683\u0683\u0683\u0686\u0686\u0686\u0686\u0687\u0687" ++
    "\u0687\u0687\u068D\u068D\u068C\u068C\u068E\u068E\u0688\u0688\u0698\u0698" ++
    "\u0691\u0691\u06A9\u06A9\u06A9\u06A9\u06AF\u06AF\u06AF\u06AF\u06B3\u06B3" ++
    "\u06B3\u06B3\u06B1\u06B1\u06B1\u06B1\u06BA\u06BA\u06BB\u06BB\u06BB\u06BB"⟩,
   ⟨0xFBA4, 2, "\u06D5\u0654\u06D5\u0654"⟩,
   ⟨0xFBA6, 1, "\u06C1\u06C1\u06C1\u06C1\u06BE\u06BE\u06BE\u06BE\u06D2\u06D2"⟩,
   ⟨0xFBB0, 2, "\u06D2\u0654\u06D2\u0654"⟩,
   ⟨0xFBD3, 1, "\u06AD\u06AD\u06AD\u06AD\u06C7\u06C7\u06C6\u06C6\u06C8\u06C8"⟩,
   ⟨0xFBDD, 2, "\u06C7\u0674"⟩,
   ⟨0xFBDE, 1, "\u06CB\u06CB\u06C5\u06C5\u06C9\u06C9\u06D0\u06D0\u06D0\u06D0\u0649\u0649"⟩,
   ⟨0xFBEA, 3, "\u064A\u0654\u0627\u064A\u0654\u0627\u064A\u0654\u06D5\u064A\u0654\u06D5" ++
    "\u064A\u0654\u0648\u064A\u0654\u0648\u064A\u0654\u06C7\u064A\u0654\u06C7" ++
    "\u064A\u0654\u06C6\u064A\u0654\u06C6\u064A\u0654\u06C8\u064A\u0654\u06C8" ++
    "\u064A\u0654\u06D0\u064A\u0654\u06D0\u064A\u0654\u06D0\u064A\u0654\u0649" ++
    "\u064A\u0654\u0649\u064A\u0654\u0649"⟩,
   ⟨0xFBFC, 1, "\u06CC\u06CC\u06CC\u06CC"⟩,
   ⟨0xFC00, 3, "\u064A\u0654\u062C\u064A\u0654\u062D\u064A\u0654\u0645\u064A\u0654\u0649" ++
    "\u064A\u0654\u064A"⟩,
   ⟨0xFC05, 2, "\u0628\u062C\u0628\u062D\u0628\u062E\u0628\u0645\u0628\u0649\u0628\u064A" ++
    "\u062A\u062C\u062A\u062D\u062A\u062E\u062A\u0645\u062A\u0649\u062A\u064A" ++
    "\u062B\u062C\u062B\u0645\u062B\u0649\u062B\u064A\u062C\u062D\u062C\u0645" ++
    "\u062D\u062C\u062D\u0645\u062E\u062C\u062E\u062D\u062E\u0645\u0633\u062C" ++
    "\u0633\u062D\u0633\u062E\u0633\u0645\u0635\u062D\u0635\u0645\u0636\u062C" ++
    "\u0636\u062D\u0636\u062E\u0636\u0645\u0637\u062D\u0637\u0645\u0638\u0645" ++
    "\u0639\u062C\u0639\u0645\u063A\u062C\u063A\u0645\u0641\u062C\u0641\u062D" ++
    "\u0641\u062E\u0641\u0645\u0641\u0649\u0641\u064A\u0642\u062D\u0642\u0645" ++
    "\u0642\u0649\u0642\u064A\u0643\u0627\u0643\u062C\u0643\u062D\u0643\u062E" ++
    "\u0643\u0644\u0643\u0645\u0643\u0649\u0643\u064A\u0644\u062C\u0644\u062D" ++
    "\u0644\u062E\u0644\u0645\u0644\u0649\u0644\u064A\u0645\u062C\u0645\u062D" ++
    "\u0645\u062E\u0645\u0645\u0645\u0649\u0645\u064A\u0646\u062C\u0646\u062D" ++
    "\u0646\u062E\u0646\u0645\u0646\u0649\u0646\u064A\u0647\u062C\u0647\u0645" ++
    "\u0647\u0649\u0647\u064A\u064A\u062C\u064A\u062D\u064A\u062E\u064A\u0645" ++
    "\u064A\u0649\u064A\u064A\u0630\u0670\u0631\u0670\u0649\u0670"⟩,
   ⟨0xFC5E, 3, " \u064C\u0651 \u064D\u0651 \u064E\u0651 \u064F\u0651 \u0650\u0651 \u0651" ++
    "\u0670\u064A\u0654\u0631\u064A\u0654\u0632\u064A\u0654\u0645\u064A\u0654" ++
    "\u0646\u064A\u0654\u0649\u064A\u0654\u064A"⟩,
   ⟨0xFC6A, 2, "\u0628\u0631\u0628\u0632\u0628\u0645\u0628\u0646\u0628\u0649\u0628\u064A" ++
    "\u062A\u0631\u062A\u0632\u062A\u0645\u062A\u0646\u062A\u0649\u062A\u064A" ++
    "\u062B\u0631\u062B\u0632\u062B\u0645\u062B\u0646\u062B\u0649\u062B\u064A" ++
    "\u0641\u0649\u0641\u064A\u0642\u0649\u0642\u064A\u0643\u0627\u0643\u0644" ++
    "\u0643\u0645\u0643\u0649\u0643\u064A\u0644\u0645\u0644\u0649\u0644\u064A" ++
    "\u0645\u0627\u0645\u0645\u0646\u0631\u0646\u0632\u0646\u0645\u0646\u0646" ++
    "\u0646\u0649\u0646\u064A\u0649\u0670\u064A\u0631\u064A\u0632\u064A\u0645" ++
    "\u064A\u0646\u064A\u0649\u064A\u064A"⟩,
   ⟨0xFC97, 3, "\u064A\u0654\u062C\u064A\u0654\u062D\u064A\u0654\u062E\u064A\u0654\u0645" ++
    "\u064A\u0654\u0647"⟩,
   ⟨0xFC9C, 2, "\u0628\u062C\u0628\u062D\u0628\u062E\u0628\u0645\u0628\u0647\u062A\u062C" ++
    "\u062A\u062D\u062A\u062E\u062A\u0645\u062A\u0647\u062B\u0645\u062C\u062D" ++
    "\u062C\u0645\u062D\u062C\u062D\u0645\u062E\u062C\u062E\u0645\u0633\u062C" ++
    "\u0633\u062D\u0633\u062E\u0633\u0645\u0635\u062D\u0635\u062E\u0635\u0645" ++
    "\u0636\u062C\u0636\u062D\u0636\u062E\u0636\u0645\u0637\u062D\u0638\u0645" ++
    "\u0639\u062C\u0639\u0645\u063A\u062C\u063A\u0645\u0641\u062C\u0641\u062D" ++
    "\u0641\u062E\u0641\u0645\u0642\u062D\u0642\u0645\u0643\u062C\u0643\u062D" ++
    "\u0643\u062E\u0643\u0644\u0643\u0645\u0644\u062C\u0644\u062D\u0644\u062E" ++
    "\u0644\u0645\u0644\u0647\u0645\u062C\u0645\u062D\u0645\u062E\u0645\u0645" ++
    "\u0646\u062C\u0646\u062D\u0646\u062E\u0646\u0645\u0646\u0647\u0647\u062C" ++
    "\u0647\u0645\u0647\u0670\u064A\u062C\u064A\u062D\u064A\u062E\u064A\u0645" ++
    "\u064A\u0647"⟩,
   ⟨0xFCDF, 3, "\u064A\u0654\u0645\u064A\u0654\u0647"⟩,
   ⟨0xFCE1, 2, "\u0628\u0645\u0628\u0647\u062A\u0645\u062A\u0647\u062B\u0645\u062B\u0647" ++
    "\u0633\u0645\u0633\u0647\u0634\u0645\u0634\u0647\u0643\u0644\u0643\u0645" ++
    "\u0644\u0645\u0646\u0645\u0646\u0647\u064A\u0645\u064A\u0647"⟩,
   ⟨0xFCF2, 3, "\u0640\u064E\u0651\u0640\u064F\u0651\u0640\u0650\u0651"⟩,
   ⟨0xFCF5, 2, "\u0637\u0649\u0637\u064A\u0639\u0649\u0639\u064A\u063A\u0649\u063A\u064A" ++
    "\u0633\u0649\u0633\u064A\u0634\u0649\u0634\u064A\u062D\u0649\u062D\u064A" ++
    "\u062C\u0649\u062C\u064A\u062E\u0649\u062E\u064A\u0635\u0649\u0635\u064A" ++
    "\u0636\u0649\u0636\u064A\u0634\u062C\u0634\u062D\u0634\u062E\u0634\u0645" ++
    "\u0634\u0631\u0633\u0631\u0635\u0631\u0636\u0631\u0637\u0649\u0637\u064A" ++
    "\u0639\u0649\u0639\u064A\u063A\u0649\u063A\u064A\u0633\u0649\u0633\u064A" ++
    "\u0634\u0649\u0634\u064A\u062D\u0649\u062D\u064A\u062C\u0649\u062C\u064A" ++
    "\u062E\u0649\u062E\u064A\u0635\u0649\u0635\u064A\u0636\u0649\u0636\u064A" ++
    "\u0634\u062C\u0634\u062D\u0634\u062E\u0634\u0645\u0634\u0631\u0633\u0631" ++
    "\u0635\u0631\u0636\u0631\u0634\u062C\u0634\u062D\u0634\u062E\u0634\u0645" ++
    "\u0633\u0647\u0634\u0647\u0637\u0645\u0633\u062C\u0633\u062D\u0633\u062E" ++
    "\u0634\u062C\u0634\u062D\u0634\u062E\u0637\u0645\u0638\u0645\u0627\u064B" ++
    "\u0627\u064B"⟩,
   ⟨0xFD50, 3, "\u062A\u062C\u0645\u062A\u062D\u062C\u062A\u062D\u062C\u062A\u062D\u0645" ++
    "\u062A\u062E\u0645\u062A\u0645\u062C\u062A\u0645\u062D\u062A\u0645\u062E" ++
    "\u062C\u0645\u062D\u062C\u0645\u062D\u062D\u0645\u064A\u062D\u0645\u0649" ++
    "\u0633\u062D\u062C\u0633\u062C\u062D\u0633\u062C\u0649\u0633\u0645\u062D" ++
    "\u0633\u0645\u062D\u0633\u0645\u062C\u0633\u0645\u0645\u0633\u0645\u0645" ++
    "\u0635\u062D\u062D\u0635\u062D\u062D\u0635\u0645\u0645\u0634\u062D\u0645" ++
    "\u0634\u062D\u0645\u0634\u062C\u064A\u0634\u0645\u062E\u0634\u0645\u062E" ++
    "\u0634\u0645\u0645\u0634\u0645\u0645\u0636\u062D\u0649\u0636\u062E\u0645" ++
    "\u0636\u062E\u0645\u0637\u0645\u062D\u0637\u0645\u062D\u0637\u0645\u0645" ++
    "\u0637\u0645\u064A\u0639\u062C\u0645\u0639\u0645\u0645\u0639\u0645\u0645" ++
    "\u0639\u0645\u0649\u063A\u0645\u0645\u063A\u0645\u064A\u063A\u0645\u0649" ++
    "\u0641\u062E\u0645\u0641\u062E\u0645\u0642\u0645\u062D\u0642\u0645\u0645" ++
    "\u0644\u062D\u0645\u0644\u062D\u064A\u0644\u062D\u0649\u0644\u062C\u062C" ++
    "\u0644\u062C\u062C\u0644\u062E\u0645\u0644\u062E\u0645\u0644\u0645\u062D" ++
    "\u0644\u0645\u062D\u0645\u062D\u062C\u0645\u062D\u0645\u0645\u062D\u064A" ++
    "\u0645\u062C\u062D\u0645\u062C\u0645\u0645\u062E\u062C\u0645\u062E\u0645"⟩,
   ⟨0xFD92, 3, "\u0645\u062C\u062E\u0647\u0645\u062C\u0647\u0645\u0645\u0646\u062D\u0645" ++
    "\u0646\u062D\u0649\u0646\u062C\u0645\u0646\u062C\u0645\u0646\u062C\u0649" ++
    "\u0646\u0645\u064A\u0646\u0645\u0649\u064A\u0645\u0645\u064A\u0645\u0645" ++
    "\u0628\u062E\u064A\u062A\u062C\u064A\u062A\u062C\u0649\u062A\u062E\u064A" ++
    "\u062A\u062E\u0649\u062A\u0645\u064A\u062A\u0645\u0649\u062C\u0645\u064A" ++
    "\u062C\u062D\u0649\u062C\u0645\u0649\u0633\u062E\u0649\u0635\u062D\u064A" ++
    "\u0634\u062D\u064A\u0636\u062D\u064A\u0644\u062C\u064A\u0644\u0645\u064A" ++
    "\u064A\u062D\u064A\u064A\u062C\u064A\u064A\u0645\u064A\u0645\u0645\u064A" ++
    "\u0642\u0645\u064A\u0646\u062D\u064A\u0642\u0645\u062D\u0644\u062D\u0645" ++
    "\u0639\u0645\u064A\u0643\u0645\u064A\u0646\u062C\u062D\u0645\u062E\u064A" ++
    "\u0644\u062C\u0645\u0643\u0645\u0645\u0644\u062C\u0645\u0646\u062C\u062D" ++
    "\u062C\u062D\u064A\u062D\u062C\u064A\u0645\u062C\u064A\u0641\u0645\u064A" ++
    "\u0628\u062D\u064A\u0643\u0645\u0645\u0639\u062C\u0645\u0635\u0645\u0645" ++
    "\u0633\u062E\u064A\u0646\u062C\u064A"⟩,
   ⟨0xFDF0, 3, "\u0635\u0644\u06D2\u0642\u0644\u06D2"⟩,
   ⟨0xFDF2, 4, "\u0627\u0644\u0644\u0647\u0627\u0643\u0628\u0631\u0645\u062D\u0645\u062F" ++
    "\u0635\u0644\u0639\u0645\u0631\u0633\u0648\u0644\u0639\u0644\u064A\u0647" ++
    "\u0648\u0633\u0644\u0645"⟩,
   ⟨0xFDF9, 3, "\u0635\u0644\u0649"⟩,
   ⟨0xFDFA, 18, "\u0635\u0644\u0649 \u0627\u0644\u0644\u0647 \u0639\u0644\u064A\u0647 " ++
    "\u0648\u0633\u0644\u0645"⟩,
   ⟨0xFDFB, 8, "\u062C\u0644 \u062C\u0644\u0627\u0644\u0647"⟩,
   ⟨0xFDFC, 4, "\u0631\u06CC\u0627\u0644"⟩, ⟨0xFE30, 2, ".."⟩,
   ⟨0xFE31, 1, "—–__()\x7b\x7d〔〕【】《》〈〉「」『』"⟩, ⟨0xFE49, 2, " \u0305 \u0305 \u0305 \u0305"⟩,
   ⟨0xFE4D, 1, "___,、."⟩, ⟨0xFE54, 1, ";:?!—()\x7b\x7d〔〕#&*+\x2d<>="⟩, ⟨0xFE68, 1, "\\$%@"⟩,
   ⟨0xFE70, 2, " \u064B\u0640\u064B \u064C"⟩, ⟨0xFE74, 2, " \u064D"⟩,
   ⟨0xFE76, 2, " \u064E\u0640\u064E \u064F\u0640\u064F \u0650\u0640\u0650 \u0651\u0640" ++
    "\u0651 \u0652\u0640\u0652"⟩,
   ⟨0xFE80, 1, "\u0621"⟩,
   ⟨0xFE81, 2, "\u0627\u0653\u0627\u0653\u0627\u0654\u0627\u0654\u0648\u0654\u0648\u0654" ++
    "\u0627\u0655\u0627\u0655\u064A\u0654\u064A\u0654\u064A\u0654\u064A\u0654"⟩,
   ⟨0xFE8D, 1, "\u0627\u0627\u0628\u0628\u0628\u0628\u0629\u0629\u062A\u062A\u062A\u062A" ++
    "\u062B\u062B\u062B\u062B\u062C\u062C\u062C\u062C\u062D\u062D\u062D\u062D" ++
    "\u062E\u062E\u062E\u062E\u062F\u062F\u0630\u0630\u0631\u0631\u0632\u0632" ++
    "\u0633\u0633\u0633\u0633\u0634\u0634\u0634\u0634\u0635\u0635\u0635\u0635" ++
    "\u0636\u0636\u0636\u0636\u0637\u0637\u0637\u0637\u0638\u0638\u0638\u0638" ++
    "\u0639\u0639\u0639\u0639\u063A\u063A\u063A\u063A\u0641\u0641\u0641\u0641" ++
    "\u0642\u0642\u0642\u0642\u0643\u0643\u0643\u0643\u0644\u0644\u0644\u0644" ++
    "\u0645\u0645\u0645\u0645\u0646\u0646\u0646\u0646\u0647\u0647\u0647\u0647" ++
    "\u0648\u0648\u0649\u0649\u064A\u064A\u064A\u064A"⟩,
   ⟨0xFEF5, 3, "\u0644\u0627\u0653\u0644\u0627\u0653\u0644\u0627\u0654\u0644\u0627\u0654" ++
    "\u0644\u0627\u0655\u0644\u0627\u0655"⟩,
   ⟨0xFEFB, 2, "\u0644\u0627\u0644\u0627"⟩,
   ⟨0xFF01, 1, "!\"#$%&\x27()*+,\x2d.\x2f0123456789:;<=>?@ABCDEFGHIJKLMNOPQRSTUVWXYZ[\\]^_" ++
    "\x60abcdefghijklmnopqrstuvwxyz\x7b|\x7d~⦅⦆。「」、・ヲァィゥェォャュョッーアイウエオカキクケコサシスセソタ" ++
    "チツテトナニヌネノハヒフヘホマミムメモヤユヨラリルレロワン\u3099\u309Aᅠᄀᄁᆪᄂᆬᆭᄃᄄᄅᆰᆱᆲᆳᆴᆵᄚᄆᄇᄈᄡᄉᄊᄋᄌᄍᄎᄏᄐᄑᄒ"⟩,
   ⟨0xFFC2, 1, "ᅡᅢᅣᅤᅥᅦ"⟩, ⟨0xFFCA, 1, "ᅧᅨᅩᅪᅫᅬ"⟩, ⟨0xFFD2, 1, "ᅭᅮᅯᅰᅱᅲ"⟩, ⟨0xFFDA, 1, "ᅳᅴᅵ"⟩,
   ⟨0xFFE0, 1, "¢£¬"⟩, ⟨0xFFE3, 2, " \u0304"⟩, ⟨0xFFE4, 1, "¦¥₩"⟩, ⟨0xFFE8, 1, "│←↑→↓■○"⟩,
   ⟨0x1D15E, 2, "𝅗𝅥𝅘𝅥"⟩, ⟨0x1D160, 3, "𝅘𝅥𝅮𝅘𝅥𝅯𝅘𝅥𝅰𝅘𝅥𝅱𝅘𝅥𝅲"⟩, ⟨0x1D1BB, 2, "𝆹𝅥𝆺𝅥"⟩,
   ⟨0x1D1BD, 3, "𝆹𝅥𝅮𝆺𝅥𝅮𝆹𝅥𝅯𝆺𝅥𝅯"⟩,
   ⟨0x1D400, 1, "ABCDEFGHIJKLMNOPQRSTUVWXYZabcdefghijklmnopqrstuvwxyzABCDEFGHIJKLMNOPQRSTUV" ++
    "WXYZabcdefg"⟩,
   ⟨0x1D456, 1, "ijklmnopqrstuvwxyzABCDEFGHIJKLMNOPQRSTUVWXYZabcdefghijklmnopqrstuvwxyzA"⟩,
   ⟨0x1D49E, 1, "CD"⟩, ⟨0x1D4A2, 1, "G"⟩, ⟨0x1D4A5, 1, "JK"⟩, ⟨0x1D4A9, 1, "NOPQ"⟩,
   ⟨0x1D4AE, 1, "STUVWXYZabcd"⟩, ⟨0x1D4BB, 1, "f"⟩, ⟨0x1D4BD, 1, "hijk"⟩, ⟨0x1D4C2, 1, "mn"⟩,
   ⟨0x1D4C5, 1, "pqrstuvwxyzABCDEFGHIJKLMNOPQRSTUVWXYZabcdefghijklmnopqrstuvwxyzAB"⟩,
   ⟨0x1D507, 1, "DEFG"⟩, ⟨0x1D50D, 1, "JKLMNOPQ"⟩, ⟨0x1D516, 1, "STUVWXY"⟩,
   ⟨0x1D51E, 1, "abcdefghijklmnopqrstuvwxyzAB"⟩, ⟨0x1D53B, 1, "DEFG"⟩, ⟨0x1D540, 1, "IJKLM"⟩,
   ⟨0x1D546, 1, "O"⟩, ⟨0x1D54A, 1, "STUVWXY"⟩,
   ⟨0x1D552, 1, "abcdefghijklmnopqrstuvwxyzABCDEFGHIJKLMNOPQRSTUVWXYZabcdefghijklmnopqrstuv" ++
    "wxyzABCDEFGHIJKLMNOPQRSTUVWXYZabcdefghijklmnopqrstuvwxyzABCDEFGHIJKLMNOPQR" ++
    "STUVWXYZabcdefghijklmnopqrstuvwxyzABCDEFGHIJKLMNOPQRSTUVWXYZabcdefghijklmn" ++
    "opqrstuvwxyzABCDEFGHIJKLMNOPQRSTUVWXYZabcdefghijklmnopqrstuvwxyzABCDEFGHIJ" ++
    "KLMNOPQRSTUVWXYZabcdefghijklmnopqrstuvwxyz"⟩,
   ⟨0x1D6A8, 1, "ΑΒΓΔΕΖΗΘΙΚΛΜΝΞΟΠΡΘΣΤΥΦΧΨΩ∇αβγδεζηθικλμνξοπρςστυφχψω∂εθκφρπΑΒΓΔΕΖΗΘΙΚΛΜΝΞΟΠ" ++
    "ΡΘΣΤΥΦΧΨΩ∇αβγδεζηθικλμνξοπρςστυφχψω∂εθκφρπΑΒΓΔΕΖΗΘΙΚΛΜΝΞΟΠΡΘΣΤΥΦΧΨΩ∇αβγδεζ" ++
    "ηθικλμνξοπρςστυφχψω∂εθκφρπΑΒΓΔΕΖΗΘΙΚΛΜΝΞΟΠΡΘΣΤΥΦΧΨΩ∇αβγδεζηθικλμνξοπρςστυφ" ++
    "χψω∂εθκφρπΑΒΓΔΕΖΗΘΙΚΛΜΝΞΟΠΡΘΣΤΥΦΧΨΩ∇αβγδεζηθικλμνξοπρςστυφχψω∂εθκφρπ"⟩,
   ⟨0x1D7CE, 1, "01234567890123456789012345678901234567890123456789"⟩,
   ⟨0x2F800, 1, "丽丸乁𠄢你侮侻倂偺備僧像㒞𠘺免兔兤具𠔜㒹內再𠕋冗冤仌冬况𩇟凵刃㓟刻剆割剷㔕勇勉勤勺包匆北卉卑博即卽卿卿卿𠨬灰及叟𠭣叫叱吆咞吸呈周咢哶唐啓啣善善喙喫喳" ++
    "嗂圖嘆圗噑噴切壮城埴堍型堲報墬𡓤売壷夆多夢奢𡚨𡛪姬娛娧姘婦㛮𡍪嬈嬾嬾𡧈寃寘寧寳𡬘寿将弳尢㞁屠屮峀岍𡷤嵃𡷦嵮嵫嵼巡巢㠯巽帨帽幩㡢𢆃㡼庰庳庶廊𪎒廾𢌱𢌱舁" ++
    "弢弢㣇𣊸𦇚形彫㣣徚忍志忹悁㤺㤜悔𢛔惇慈慌慎慌慺憎憲憤憯懞懲懶成戛扝抱拔捐𢬌挽拼捨掃揤𢯱搢揅掩㨮摩摾撝摷㩬敏敬𣀊旣書晉㬙暑㬈㫤冒冕最暜肭䏙朗望朡杞杓𣏃" ++
    "㭉柺枅桒梅𣑭梎栟椔㮝楂榣槪檨𣚣櫛㰘次𣢧歔㱎歲殟殺殻𣪍𡴋𣫺汎𣲼沿泍汧洖派海流浩浸涅𣴞洴港湮㴳滋滇𣻑淹潮𣽞𣾎濆瀹瀞瀛㶖灊災灷炭𠔥煅𤉣熜䎫爨爵牐𤘈犀犕𤜵𤠔" ++
    "獺王㺬玥㺸㺸瑇瑜瑱璅瓊㼛甤𤰶甾𤲒異𢆟瘐𤾡𤾸𥁄㿼䀈直𥃳𥃲𥄙𥄳眞真真睊䀹瞋䁆䂖𥐝硎碌磌䃣𥘦祖𥚚𥛅福秫䄯穀穊穏𥥼𥪧𥪧窮䈂𥮫篆築䈧𥲀糒䊠糨糣紀𥾆絣䌁緇縂繅䌴" ++
    "𦈨𦉇䍙𦋙罺𦌾羕翺者𦓚𦔣聠𦖨聰𣍟䏕育脃䐋脾媵𦞧𦞵𣎓𣎜舁舄辞䑫芑芋芝劳花芳芽苦𦬼若茝荣莭茣莽菧著荓菊菌菜𦰶𦵫𦳕䔫蓱蓳蔖𧏊蕤𦼬䕝䕡𦾱𧃒䕫虐虜虧虩蚩蚈蜎蛢蝹" ++
    "蜨蝫螆䵗蟡蠁䗹衠衣𧙧裗裞䘵裺㒻𧢮𧥦䚾䛇誠諭變豕𧲨貫賁贛起𧼯𠠄跋趼跰𠣞軔輸𨗒𨗭邔郱鄑𨜮鄛鈸鋗鋘鉼鏹鐕𨯺開䦕閷𨵷䧦雃嶲霣𩅅𩈚䩮䩶韠𩐊䪲𩒖頋頋頩𩖶飢䬳餩馧" ++
    "駂駾䯎𩬰鬒鱀鳽䳎䳭鵧𪃎䳸𪄅𪈎𪊑麻䵖黹黾鼅鼏鼖鼻𪘀"⟩]

end ScriptBindings.Text.Normal

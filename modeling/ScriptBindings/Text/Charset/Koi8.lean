import ScriptBindings.Text.Charset

/-!
# Character sets of the KOI8 family and of HP workstations
-/

namespace ScriptBindings.Text

open Charset

/-- The character sets of the KOI8 family and of HP workstations. -/
def koi8Charsets : List Charset :=
  [{ name := "hp_roman8"
     aliases := ["cp1051", "csHPRoman8", "ibm1051", "r8", "roman8"]
     chars := ofHigh <|
       "\u0080\u0081\u0082\u0083\u0084\u0085\u0086\u0087\u0088\u0089\u008A\u008B\u008C\u008D" ++
       "\u008E\u008F\u0090\u0091\u0092\u0093\u0094\u0095\u0096\u0097\u0098\u0099\u009A\u009B" ++
       "\u009C\u009D\u009E\u009F\u00A0ÀÂÈÊËÎÏ\u00B4\u02CB\u02C6\u00A8\u02DCÙÛ₤\u00AFÝý°ÇçÑñ¡¿" ++
       "¤£¥§ƒ¢âêôûáéóúàèòùäëöüÅîØÆåíøæÄìÖÜÉïßÔÁÃãÐðÍÌÓÒÕõŠšÚŸÿÞþ·\u00B5¶\u00BE—\u00BC\u00BD" ++
       "\u00AA\u00BA«■»±\uFFFD" },
   { name := "koi8_r"
     aliases := ["cskoi8r"]
     chars := ofHigh <|
       "─│┌┐└┘├┤┬┴┼▀▄█▌▐░▒▓⌠■∙√≈≤≥\u00A0⌡°\u00B2·÷═║╒ё╓╔╕╖╗╘╙╚╛╜╝╞╟╠╡Ё╢╣╤╥╦╧╨╩╪╫╬©юабцдефгхий" ++
       "клмнопярстужвьызшэщчъЮАБЦДЕФГХИЙКЛМНОПЯРСТУЖВЬЫЗШЭЩЧЪ" },
   { name := "koi8_t"
     aliases := []
     chars := ofHigh <|
       "қғ‚Ғ„\u2026†‡\uFFFD‰ҳ‹ҲҷҶ\uFFFDҚ‘’“”•–—\uFFFD\u2122\uFFFD›\uFFFD\uFFFD\uFFFD\uFFFD" ++
       "\uFFFDӯӮё¤ӣ¦§\uFFFD\uFFFD\uFFFD«¬\u00AD®\uFFFD°±\u00B2Ё\uFFFDӢ¶·\uFFFD\u2116\uFFFD»" ++
       "\uFFFD\uFFFD\uFFFD©юабцдефгхийклмнопярстужвьызшэщчъЮАБЦДЕФГХИЙКЛМНОПЯРСТУЖВЬЫЗШЭЩЧЪ" },
   { name := "koi8_u"
     aliases := []
     chars := ofHigh <|
       "─│┌┐└┘├┤┬┴┼▀▄█▌▐░▒▓⌠■∙√≈≤≥\u00A0⌡°\u00B2·÷═║╒ёє╔ії╗╘╙╚╛ґ╝╞╟╠╡ЁЄ╣ІЇ╦╧╨╩╪Ґ╬©юабцдефгхий" ++
       "клмнопярстужвьызшэщчъЮАБЦДЕФГХИЙКЛМНОПЯРСТУЖВЬЫЗШЭЩЧЪ" }]

end ScriptBindings.Text

import ScriptBindings.Text.Charset

/-!
# Character sets of the Macintosh family
-/

namespace ScriptBindings.Text

open Charset

/-- The character sets of the Macintosh family. -/
def macintoshCharsets : List Charset :=
  [{ name := "mac_arabic"
     aliases := []
     chars := ofHigh <|
       "Ä\u00A0ÇÉÑÖÜáàâä\u06BA«çéèêëí\u2026îïñó»ôö÷úùûü !\"#$٪&'()*+،\x2d.\x2f\u0660\u0661" ++
       "\u0662\u0663\u0664\u0665\u0666\u0667\u0668\u0669:\u061B<=>\u061F\u274A\u0621\u0622" ++
       "\u0623\u0624\u0625\u0626\u0627\u0628\u0629\u062A\u062B\u062C\u062D\u062E\u062F\u0630" ++
       "\u0631\u0632\u0633\u0634\u0635\u0636\u0637\u0638\u0639\u063A[\\]^_\u0640\u0641\u0642" ++
       "\u0643\u0644\u0645\u0646\u0647\u0648\u0649\u064A\u064B\u064C\u064D\u064E\u064F\u0650" ++
       "\u0651\u0652\u067E\u0679\u0686\u06D5\u06A4\u06AF\u0688\u0691\x7b|\x7d\u0698\u06D2" },
   { name := "mac_croatian"
     aliases := []
     chars := ofHigh <|
       "ÄÅÇÉÑÖÜáàâäãåçéèêëíìîïñóòôöõúùûü†°¢£§•¶ß®Š\u2122\u00B4\u00A8≠ŽØ∞±≤≥∆\u00B5∂∑∏š∫\u00AA" ++
       "\u00BAΩžø¿¡¬√ƒ≈Ć«Č\u2026\u00A0ÀÃÕŒœĐ—“”‘’÷◊\uF8FF©⁄€‹›Æ»–·‚„‰ÂćÁčÈÍÎÏÌÓÔđÒÚÛÙı\u02C6" ++
       "\u02DC\u00AFπË\u02DA\u00B8Êæ\u02C7" },
   { name := "mac_cyrillic"
     aliases := ["maccyrillic"]
     chars := ofHigh <|
       "АБВГДЕЖЗИЙКЛМНОПРСТУФХЦЧШЩЪЫЬЭЮЯ†°Ґ£§•¶І®©\u2122Ђђ≠Ѓѓ∞±≤≥і\u00B5ґЈЄєЇїЉљЊњјЅ¬√ƒ≈∆«»" ++
       "\u2026\u00A0ЋћЌќѕ–—“”‘’÷„ЎўЏџ\u2116Ёёяабвгдежзийклмнопрстуфхцчшщъыьэю€" },
   { name := "mac_farsi"
     aliases := []
     chars := ofHigh <|
       "Ä\u00A0ÇÉÑÖÜáàâä\u06BA«çéèêëí\u2026îïñó»ôö÷úùûü !\"#$٪&'()*+،\x2d.\x2f۰۱۲۳۴۵۶۷۸۹:" ++
       "\u061B<=>\u061F\u274A\u0621\u0622\u0623\u0624\u0625\u0626\u0627\u0628\u0629\u062A" ++
       "\u062B\u062C\u062D\u062E\u062F\u0630\u0631\u0632\u0633\u0634\u0635\u0636\u0637\u0638" ++
       "\u0639\u063A[\\]^_\u0640\u0641\u0642\u0643\u0644\u0645\u0646\u0647\u0648\u0649\u064A" ++
       "\u064B\u064C\u064D\u064E\u064F\u0650\u0651\u0652\u067E\u0679\u0686\u06D5\u06A4\u06AF" ++
       "\u0688\u0691\x7b|\x7d\u0698\u06D2" },
   { name := "mac_greek"
     aliases := ["macgreek"]
     chars := ofHigh <|
       "Ä\u00B9\u00B2É\u00B3ÖÜ\u0385àâä\u0384\u00A8çéèêë£\u2122îï•\u00BD‰ôö¦€ùûü†ΓΔΘΛΞΠß®©ΣΪ§" ++
       "≠°·Α±≤≥¥ΒΕΖΗΙΚΜΦΫΨΩάΝ¬ΟΡ≈Τ«»\u2026\u00A0ΥΧΆΈœ–―“”‘’÷ΉΊΌΎέήίόΏύαβψδεφγηιξκλμνοπώρστθως" ++
       "χυζϊϋΐΰ\u00AD" },
   { name := "mac_iceland"
     aliases := ["maciceland"]
     chars := ofHigh <|
       "ÄÅÇÉÑÖÜáàâäãåçéèêëíìîïñóòôöõúùûüÝ°¢£§•¶ß®©\u2122\u00B4\u00A8≠ÆØ∞±≤≥¥\u00B5∂∑∏π∫\u00AA" ++
       "\u00BAΩæø¿¡¬√ƒ≈∆«»\u2026\u00A0ÀÃÕŒœ–—“”‘’÷◊ÿŸ⁄€ÐðÞþý·‚„‰ÂÊÁËÈÍÎÏÌÓÔ\uF8FFÒÚÛÙı\u02C6" ++
       "\u02DC\u00AF\u02D8\u02D9\u02DA\u00B8\u02DD\u02DB\u02C7" },
   { name := "mac_latin2"
     aliases := ["mac_centeuro", "maccentraleurope", "maclatin2"]
     chars := ofHigh <|
       "ÄĀāÉĄÖÜáąČäčĆćéŹźĎíďĒēĖóėôöõúĚěü†°Ę£§•¶ß®©\u2122ę\u00A8≠ģĮįĪ≤≥īĶ∂∑łĻļĽľĹĺŅņŃ¬√ńŇ∆«»" ++
       "\u2026\u00A0ňŐÕőŌ–—“”‘’÷◊ōŔŕŘ‹›řŖŗŠ‚„šŚśÁŤťÍŽžŪÓÔūŮÚůŰűŲųÝýķŻŁżĢ\u02C7" },
   { name := "mac_roman"
     aliases := ["macintosh", "macroman"]
     chars := ofHigh <|
       "ÄÅÇÉÑÖÜáàâäãåçéèêëíìîïñóòôöõúùûü†°¢£§•¶ß®©\u2122\u00B4\u00A8≠ÆØ∞±≤≥¥\u00B5∂∑∏π∫\u00AA" ++
       "\u00BAΩæø¿¡¬√ƒ≈∆«»\u2026\u00A0ÀÃÕŒœ–—“”‘’÷◊ÿŸ⁄€‹›\uFB01\uFB02‡·‚„‰ÂÊÁËÈÍÎÏÌÓÔ\uF8FFÒÚ" ++
       "ÛÙı\u02C6\u02DC\u00AF\u02D8\u02D9\u02DA\u00B8\u02DD\u02DB\u02C7" },
   { name := "mac_romanian"
     aliases := []
     chars := ofHigh <|
       "ÄÅÇÉÑÖÜáàâäãåçéèêëíìîïñóòôöõúùûü†°¢£§•¶ß®©\u2122\u00B4\u00A8≠ĂȘ∞±≤≥¥\u00B5∂∑∏π∫\u00AA" ++
       "\u00BAΩăș¿¡¬√ƒ≈∆«»\u2026\u00A0ÀÃÕŒœ–—“”‘’÷◊ÿŸ⁄€‹›Țț‡·‚„‰ÂÊÁËÈÍÎÏÌÓÔ\uF8FFÒÚÛÙı\u02C6" ++
       "\u02DC\u00AF\u02D8\u02D9\u02DA\u00B8\u02DD\u02DB\u02C7" },
   { name := "mac_turkish"
     aliases := ["macturkish"]
     chars := ofHigh <|
       "ÄÅÇÉÑÖÜáàâäãåçéèêëíìîïñóòôöõúùûü†°¢£§•¶ß®©\u2122\u00B4\u00A8≠ÆØ∞±≤≥¥\u00B5∂∑∏π∫\u00AA" ++
       "\u00BAΩæø¿¡¬√ƒ≈∆«»\u2026\u00A0ÀÃÕŒœ–—“”‘’÷◊ÿŸĞğİıŞş‡·‚„‰ÂÊÁËÈÍÎÏÌÓÔ\uF8FFÒÚÛÙ\uF8A0" ++
       "\u02C6\u02DC\u00AF\u02D8\u02D9\u02DA\u00B8\u02DD\u02DB\u02C7" }]

end ScriptBindings.Text

import ScriptBindings.Text.Charset

/-!
# Character sets of the DOS family
-/

namespace ScriptBindings.Text

open Charset

/-- The character sets of the DOS family. -/
def dosCharsets : List Charset :=
  [{ name := "cp437"
     aliases := ["437", "cspc8codepage437", "ibm437"]
     chars := ofHigh <|
       "ÇüéâäàåçêëèïîìÄÅÉæÆôöòûùÿÖÜ¢£¥₧ƒáíóúñÑ\u00AA\u00BA¿⌐¬\u00BD\u00BC¡«»░▒▓│┤╡╢╖╕╣║╗╝╜╛┐└" ++
       "┴┬├─┼╞╟╚╔╩╦╠═╬╧╨╤╥╙╘╒╓╫╪┘┌█▄▌▐▀αßΓπΣσ\u00B5τΦΘΩδ∞φε∩≡±≥≤⌠⌡÷≈°∙·√\u207F\u00B2■\u00A0" },
   { name := "cp720"
     aliases := []
     chars := ofHigh <|
       "\u0080\u0081éâ\u0084à\u0086çêëèïî\u008D\u008E\u008F\u0090\u0651\u0652ô¤\u0640ûù\u0621" ++
       "\u0622\u0623\u0624£\u0625\u0626\u0627\u0628\u0629\u062A\u062B\u062C\u062D\u062E\u062F" ++
       "\u0630\u0631\u0632\u0633\u0634\u0635«»░▒▓│┤╡╢╖╕╣║╗╝╜╛┐└┴┬├─┼╞╟╚╔╩╦╠═╬╧╨╤╥╙╘╒╓╫╪┘┌█▄▌▐" ++
       "▀\u0636\u0637\u0638\u0639\u063A\u0641\u00B5\u0642\u0643\u0644\u0645\u0646\u0647\u0648" ++
       "\u0649\u064A≡\u064B\u064C\u064D\u064E\u064F\u0650≈°∙·√\u207F\u00B2■\u00A0" },
   { name := "cp737"
     aliases := []
     chars := ofHigh <|
       "ΑΒΓΔΕΖΗΘΙΚΛΜΝΞΟΠΡΣΤΥΦΧΨΩαβγδεζηθικλμνξοπρσςτυφχψ░▒▓│┤╡╢╖╕╣║╗╝╜╛┐└┴┬├─┼╞╟╚╔╩╦╠═╬╧╨╤╥╙╘" ++
       "╒╓╫╪┘┌█▄▌▐▀ωάέήϊίόύϋώΆΈΉΊΌΎΏ±≥≤ΪΫ÷≈°∙·√\u207F\u00B2■\u00A0" },
   { name := "cp775"
     aliases := ["775", "cspc775baltic", "ibm775"]
     chars := ofHigh <|
       "ĆüéāäģåćłēŖŗīŹÄÅÉæÆōöĢ¢ŚśÖÜø£Ø×¤ĀĪóŻżź”¦©®¬\u00BD\u00BCŁ«»░▒▓│┤ĄČĘĖ╣║╗╝ĮŠ┐└┴┬├─┼ŲŪ╚╔╩" ++
       "╦╠═╬Žąčęėįšųūž┘┌█▄▌▐▀ÓßŌŃõÕ\u00B5ńĶķĻļņĒŅ’\u00AD±“\u00BE¶§÷„°∙·\u00B9\u00B3\u00B2■" ++
       "\u00A0" },
   { name := "cp850"
     aliases := ["850", "cspc850multilingual", "ibm850"]
     chars := ofHigh <|
       "ÇüéâäàåçêëèïîìÄÅÉæÆôöòûùÿÖÜø£Ø×ƒáíóúñÑ\u00AA\u00BA¿®¬\u00BD\u00BC¡«»░▒▓│┤ÁÂÀ©╣║╗╝¢¥┐└" ++
       "┴┬├─┼ãÃ╚╔╩╦╠═╬¤ðÐÊËÈıÍÎÏ┘┌█▄¦Ì▀ÓßÔÒõÕ\u00B5þÞÚÛÙýÝ\u00AF\u00B4\u00AD±\u2017\u00BE¶§÷" ++
       "\u00B8°\u00A8·\u00B9\u00B3\u00B2■\u00A0" },
   { name := "cp852"
     aliases := ["852", "cspcp852", "ibm852"]
     chars := ofHigh <|
       "ÇüéâäůćçłëŐőîŹÄĆÉĹĺôöĽľŚśÖÜŤťŁ×čáíóúĄąŽžĘę¬źČş«»░▒▓│┤ÁÂĚŞ╣║╗╝Żż┐└┴┬├─┼Ăă╚╔╩╦╠═╬¤đĐĎËď" ++
       "ŇÍÎě┘┌█▄ŢŮ▀ÓßÔŃńňŠšŔÚŕŰýÝţ\u00B4\u00AD\u02DD\u02DB\u02C7\u02D8§÷\u00B8°\u00A8\u02D9űŘ" ++
       "ř■\u00A0" },
   { name := "cp855"
     aliases := ["855", "csibm855", "ibm855"]
     chars := ofHigh <|
       "ђЂѓЃёЁєЄѕЅіІїЇјЈљЉњЊћЋќЌўЎџЏюЮъЪаАбБцЦдДеЕфФгГ«»░▒▓│┤хХиИ╣║╗╝йЙ┐└┴┬├─┼кК╚╔╩╦╠═╬¤лЛмМн" ++
       "НоОп┘┌█▄Пя▀ЯрРсСтТуУжЖвВьЬ\u2116\u00ADыЫзЗшШэЭщЩчЧ§■\u00A0" },
   { name := "cp856"
     aliases := []
     chars := ofHigh <|
       "\u05D0\u05D1\u05D2\u05D3\u05D4\u05D5\u05D6\u05D7\u05D8\u05D9\u05DA\u05DB\u05DC\u05DD" ++
       "\u05DE\u05DF\u05E0\u05E1\u05E2\u05E3\u05E4\u05E5\u05E6\u05E7\u05E8\u05E9\u05EA\uFFFD£" ++
       "\uFFFD×\uFFFD\uFFFD\uFFFD\uFFFD\uFFFD\uFFFD\uFFFD\uFFFD\uFFFD\uFFFD®¬\u00BD\u00BC" ++
       "\uFFFD«»░▒▓│┤\uFFFD\uFFFD\uFFFD©╣║╗╝¢¥┐└┴┬├─┼\uFFFD\uFFFD╚╔╩╦╠═╬¤\uFFFD\uFFFD\uFFFD" ++
       "\uFFFD\uFFFD\uFFFD\uFFFD\uFFFD\uFFFD┘┌█▄¦\uFFFD▀\uFFFD\uFFFD\uFFFD\uFFFD\uFFFD\uFFFD" ++
       "\u00B5\uFFFD\uFFFD\uFFFD\uFFFD\uFFFD\uFFFD\uFFFD\u00AF\u00B4\u00AD±\u2017\u00BE¶§÷" ++
       "\u00B8°\u00A8·\u00B9\u00B3\u00B2■\u00A0" },
   { name := "cp857"
     aliases := ["857", "csibm857", "ibm857"]
     chars := ofHigh <|
       "ÇüéâäàåçêëèïîıÄÅÉæÆôöòûùİÖÜø£ØŞşáíóúñÑĞğ¿®¬\u00BD\u00BC¡«»░▒▓│┤ÁÂÀ©╣║╗╝¢¥┐└┴┬├─┼ãÃ╚╔╩" ++
       "╦╠═╬¤\u00BA\u00AAÊËÈ\uFFFDÍÎÏ┘┌█▄¦Ì▀ÓßÔÒõÕ\u00B5\uFFFD×ÚÛÙìÿ\u00AF\u00B4\u00AD±\uFFFD" ++
       "\u00BE¶§÷\u00B8°\u00A8·\u00B9\u00B3\u00B2■\u00A0" },
   { name := "cp858"
     aliases := ["858", "csibm858", "ibm858"]
     chars := ofHigh <|
       "ÇüéâäàåçêëèïîìÄÅÉæÆôöòûùÿÖÜø£Ø×ƒáíóúñÑ\u00AA\u00BA¿®¬\u00BD\u00BC¡«»░▒▓│┤ÁÂÀ©╣║╗╝¢¥┐└" ++
       "┴┬├─┼ãÃ╚╔╩╦╠═╬¤ðÐÊËÈ€ÍÎÏ┘┌█▄¦Ì▀ÓßÔÒõÕ\u00B5þÞÚÛÙýÝ\u00AF\u00B4\u00AD±\u2017\u00BE¶§÷" ++
       "\u00B8°\u00A8·\u00B9\u00B3\u00B2■\u00A0" },
   { name := "cp860"
     aliases := ["860", "csibm860", "ibm860"]
     chars := ofHigh <|
       "ÇüéâãàÁçêÊèÍÔìÃÂÉÀÈôõòÚùÌÕÜ¢£Ù₧ÓáíóúñÑ\u00AA\u00BA¿Ò¬\u00BD\u00BC¡«»░▒▓│┤╡╢╖╕╣║╗╝╜╛┐└" ++
       "┴┬├─┼╞╟╚╔╩╦╠═╬╧╨╤╥╙╘╒╓╫╪┘┌█▄▌▐▀αßΓπΣσ\u00B5τΦΘΩδ∞φε∩≡±≥≤⌠⌡÷≈°∙·√\u207F\u00B2■\u00A0" },
   { name := "cp861"
     aliases := ["861", "cp_is", "csibm861", "ibm861"]
     chars := ofHigh <|
       "ÇüéâäàåçêëèÐðÞÄÅÉæÆôöþûÝýÖÜø£Ø₧ƒáíóúÁÍÓÚ¿⌐¬\u00BD\u00BC¡«»░▒▓│┤╡╢╖╕╣║╗╝╜╛┐└┴┬├─┼╞╟╚╔╩" ++
       "╦╠═╬╧╨╤╥╙╘╒╓╫╪┘┌█▄▌▐▀αßΓπΣσ\u00B5τΦΘΩδ∞φε∩≡±≥≤⌠⌡÷≈°∙·√\u207F\u00B2■\u00A0" },
   { name := "cp862"
     aliases := ["862", "cspc862latinhebrew", "ibm862"]
     chars := ofHigh <|
       "\u05D0\u05D1\u05D2\u05D3\u05D4\u05D5\u05D6\u05D7\u05D8\u05D9\u05DA\u05DB\u05DC\u05DD" ++
       "\u05DE\u05DF\u05E0\u05E1\u05E2\u05E3\u05E4\u05E5\u05E6\u05E7\u05E8\u05E9\u05EA¢£¥₧ƒáí" ++
       "óúñÑ\u00AA\u00BA¿⌐¬\u00BD\u00BC¡«»░▒▓│┤╡╢╖╕╣║╗╝╜╛┐└┴┬├─┼╞╟╚╔╩╦╠═╬╧╨╤╥╙╘╒╓╫╪┘┌█▄▌▐▀αßΓ" ++
       "πΣσ\u00B5τΦΘΩδ∞φε∩≡±≥≤⌠⌡÷≈°∙·√\u207F\u00B2■\u00A0" },
   { name := "cp863"
     aliases := ["863", "csibm863", "ibm863"]
     chars := ofHigh <|
       "ÇüéâÂà¶çêëèïî\u2017À§ÉÈÊôËÏûù¤ÔÜ¢£ÙÛƒ¦\u00B4óú\u00A8\u00B8\u00B3\u00AFÎ⌐¬\u00BD\u00BC" ++
       "\u00BE«»░▒▓│┤╡╢╖╕╣║╗╝╜╛┐└┴┬├─┼╞╟╚╔╩╦╠═╬╧╨╤╥╙╘╒╓╫╪┘┌█▄▌▐▀αßΓπΣσ\u00B5τΦΘΩδ∞φε∩≡±≥≤⌠⌡÷≈" ++
       "°∙·√\u207F\u00B2■\u00A0" },
   { name := "cp864"
     aliases := ["864", "csibm864", "ibm864"]
     -- a percent sign of its own takes the place of the one of ASCII
     chars := String.ofList ((ofHigh <|
       "°·∙√▒─│┼┤┬├┴┐┌└┘β∞φ±\u00BD\u00BC≈«»\uFEF7\uFEF8\uFFFD\uFFFD\uFEFB\uFEFC\uFFFD\u00A0" ++
       "\u00AD\uFE82£¤\uFE84\uFFFD\uFFFD\uFE8E\uFE8F\uFE95\uFE99،\uFE9D\uFEA1\uFEA5\u0660" ++
       "\u0661\u0662\u0663\u0664\u0665\u0666\u0667\u0668\u0669\uFED1\u061B\uFEB1\uFEB5\uFEB9" ++
       "\u061F¢\uFE80\uFE81\uFE83\uFE85\uFECA\uFE8B\uFE8D\uFE91\uFE93\uFE97\uFE9B\uFE9F\uFEA3" ++
       "\uFEA7\uFEA9\uFEAB\uFEAD\uFEAF\uFEB3\uFEB7\uFEBB\uFEBF\uFEC1\uFEC5\uFECB\uFECF¦¬÷×" ++
       "\uFEC9\u0640\uFED3\uFED7\uFEDB\uFEDF\uFEE3\uFEE7\uFEEB\uFEED\uFEEF\uFEF3\uFEBD\uFECC" ++
       "\uFECE\uFECD\uFEE1\uFE7D\u0651\uFEE5\uFEE9\uFEEC\uFEF0\uFEF2\uFED0\uFED5\uFEF5\uFEF6" ++
       "\uFEDD\uFED9\uFEF1■\uFFFD").toList.set 0x25 '\u066A') },
   { name := "cp865"
     aliases := ["865", "csibm865", "ibm865"]
     chars := ofHigh <|
       "ÇüéâäàåçêëèïîìÄÅÉæÆôöòûùÿÖÜø£Ø₧ƒáíóúñÑ\u00AA\u00BA¿⌐¬\u00BD\u00BC¡«¤░▒▓│┤╡╢╖╕╣║╗╝╜╛┐└" ++
       "┴┬├─┼╞╟╚╔╩╦╠═╬╧╨╤╥╙╘╒╓╫╪┘┌█▄▌▐▀αßΓπΣσ\u00B5τΦΘΩδ∞φε∩≡±≥≤⌠⌡÷≈°∙·√\u207F\u00B2■\u00A0" },
   { name := "cp866"
     aliases := ["866", "csibm866", "ibm866"]
     chars := ofHigh <|
       "АБВГДЕЖЗИЙКЛМНОПРСТУФХЦЧШЩЪЫЬЭЮЯабвгдежзийклмноп░▒▓│┤╡╢╖╕╣║╗╝╜╛┐└┴┬├─┼╞╟╚╔╩╦╠═╬╧╨╤╥╙╘" ++
       "╒╓╫╪┘┌█▄▌▐▀рстуфхцчшщъыьэюяЁёЄєЇїЎў°∙·√\u2116¤■\u00A0" },
   { name := "cp869"
     aliases := ["869", "cp_gr", "csibm869", "ibm869"]
     chars := ofHigh <|
       "\uFFFD\uFFFD\uFFFD\uFFFD\uFFFD\uFFFDΆ\uFFFD·¬¦‘’Έ―ΉΊΪΌ\uFFFD\uFFFDΎΫ©Ώ\u00B2\u00B3ά£έ" ++
       "ήίϊΐόύΑΒΓΔΕΖΗ\u00BDΘΙ«»░▒▓│┤ΚΛΜΝ╣║╗╝ΞΟ┐└┴┬├─┼ΠΡ╚╔╩╦╠═╬ΣΤΥΦΧΨΩαβγ┘┌█▄δε▀ζηθικλμνξοπρσς" ++
       "τ\u0384\u00AD±υφχ§ψ\u0385°\u00A8ωϋΰώ■\u00A0" },
   { name := "cp1006"
     aliases := []
     chars := ofHigh <|
       "\u0080\u0081\u0082\u0083\u0084\u0085\u0086\u0087\u0088\u0089\u008A\u008B\u008C\u008D" ++
       "\u008E\u008F\u0090\u0091\u0092\u0093\u0094\u0095\u0096\u0097\u0098\u0099\u009A\u009B" ++
       "\u009C\u009D\u009E\u009F\u00A0۰۱۲۳۴۵۶۷۸۹،\u061B\u00AD\u061F\uFE81\uFE8D\uFE8E\uFE8E" ++
       "\uFE8F\uFE91\uFB56\uFB58\uFE93\uFE95\uFE97\uFB66\uFB68\uFE99\uFE9B\uFE9D\uFE9F\uFB7A" ++
       "\uFB7C\uFEA1\uFEA3\uFEA5\uFEA7\uFEA9\uFB84\uFEAB\uFEAD\uFB8C\uFEAF\uFB8A\uFEB1\uFEB3" ++
       "\uFEB5\uFEB7\uFEB9\uFEBB\uFEBD\uFEBF\uFEC1\uFEC5\uFEC9\uFECA\uFECB\uFECC\uFECD\uFECE" ++
       "\uFECF\uFED0\uFED1\uFED3\uFED5\uFED7\uFED9\uFEDB\uFB92\uFB94\uFEDD\uFEDF\uFEE0\uFEE1" ++
       "\uFEE3\uFB9E\uFEE5\uFEE7\uFE85\uFEED\uFBA6\uFBA8\uFBA9\uFBAA\uFE80\uFE89\uFE8A\uFE8B" ++
       "\uFEF1\uFEF2\uFEF3\uFBB0\uFBAE\uFE7C\uFE7D" },
   { name := "cp1125"
     aliases := ["1125", "cp866u", "ibm1125", "ruscii"]
     chars := ofHigh <|
       "АБВГДЕЖЗИЙКЛМНОПРСТУФХЦЧШЩЪЫЬЭЮЯабвгдежзийклмноп░▒▓│┤╡╢╖╕╣║╗╝╜╛┐└┴┬├─┼╞╟╚╔╩╦╠═╬╧╨╤╥╙╘" ++
       "╒╓╫╪┘┌█▄▌▐▀рстуфхцчшщъыьэюяЁёҐґЄєІіЇї·√\u2116¤■\u00A0" }]

end ScriptBindings.Text

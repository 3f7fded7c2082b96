import ScriptBindings.Text.Charset

/-!
# Character sets of the Windows family
-/

namespace ScriptBindings.Text

open Charset

/-- The character sets of the Windows family. -/
def windowsCharsets : List Charset :=
  [{ name := "cp874"
     aliases := []
     chars := ofHigh <|
       "€\uFFFD\uFFFD\uFFFD\uFFFD\u2026\uFFFD\uFFFD\uFFFD\uFFFD\uFFFD\uFFFD\uFFFD\uFFFD\uFFFD" ++
       "\uFFFD\uFFFD‘’“”•–—\uFFFD\uFFFD\uFFFD\uFFFD\uFFFD\uFFFD\uFFFD\uFFFD\u00A0\u0E01\u0E02" ++
       "\u0E03\u0E04\u0E05\u0E06\u0E07\u0E08\u0E09\u0E0A\u0E0B\u0E0C\u0E0D\u0E0E\u0E0F\u0E10" ++
       "\u0E11\u0E12\u0E13\u0E14\u0E15\u0E16\u0E17\u0E18\u0E19\u0E1A\u0E1B\u0E1C\u0E1D\u0E1E" ++
       "\u0E1F\u0E20\u0E21\u0E22\u0E23\u0E24\u0E25\u0E26\u0E27\u0E28\u0E29\u0E2A\u0E2B\u0E2C" ++
       "\u0E2D\u0E2E\u0E2F\u0E30\u0E31\u0E32\u0E33\u0E34\u0E35\u0E36\u0E37\u0E38\u0E39\u0E3A" ++
       "\uFFFD\uFFFD\uFFFD\uFFFD\u0E3F\u0E40\u0E41\u0E42\u0E43\u0E44\u0E45\u0E46\u0E47\u0E48" ++
       "\u0E49\u0E4A\u0E4B\u0E4C\u0E4D\u0E4E\u0E4F\u0E50\u0E51\u0E52\u0E53\u0E54\u0E55\u0E56" ++
       "\u0E57\u0E58\u0E59\u0E5A\u0E5B\uFFFD\uFFFD\uFFFD\uFFFD" },
   { name := "cp1250"
     aliases := ["1250", "windows_1250"]
     chars := ofHigh <|
       "€\uFFFD‚\uFFFD„\u2026†‡\uFFFD‰Š‹ŚŤŽŹ\uFFFD‘’“”•–—\uFFFD\u2122š›śťžź\u00A0\u02C7\u02D8" ++
       "Ł¤Ą¦§\u00A8©Ş«¬\u00AD®Ż°±\u02DBł\u00B4\u00B5¶·\u00B8ąş»Ľ\u02DDľżŔÁÂĂÄĹĆÇČÉĘËĚÍÎĎĐŃŇÓÔ" ++
       "ŐÖ×ŘŮÚŰÜÝŢßŕáâăäĺćçčéęëěíîďđńňóôőö÷řůúűüýţ\u02D9" },
   { name := "cp1251"
     aliases := ["1251", "windows_1251"]
     chars := ofHigh <|
       "ЂЃ‚ѓ„\u2026†‡€‰Љ‹ЊЌЋЏђ‘’“”•–—\uFFFD\u2122љ›њќћџ\u00A0ЎўЈ¤Ґ¦§Ё©Є«¬\u00AD®Ї°±Ііґ\u00B5¶" ++
       "·ё\u2116є»јЅѕїАБВГДЕЖЗИЙКЛМНОПРСТУФХЦЧШЩЪЫЬЭЮЯабвгдежзийклмнопрстуфхцчшщъыьэюя" },
   { name := "cp1252"
     aliases := ["1252", "windows_1252"]
     chars := ofHigh <|
       "€\uFFFD‚ƒ„\u2026†‡\u02C6‰Š‹Œ\uFFFDŽ\uFFFD\uFFFD‘’“”•–—\u02DC\u2122š›œ\uFFFDžŸ\u00A0¡¢" ++
       "£¤¥¦§\u00A8©\u00AA«¬\u00AD®\u00AF°±\u00B2\u00B3\u00B4\u00B5¶·\u00B8\u00B9\u00BA»" ++
       "\u00BC\u00BD\u00BE¿ÀÁÂÃÄÅÆÇÈÉÊËÌÍÎÏÐÑÒÓÔÕÖ×ØÙÚÛÜÝÞßàáâãäåæçèéêëìíîïðñòóôõö÷øùúûüýþÿ" },
   { name := "cp1253"
     aliases := ["1253", "windows_1253"]
     chars := ofHigh <|
       "€\uFFFD‚ƒ„\u2026†‡\uFFFD‰\uFFFD‹\uFFFD\uFFFD\uFFFD\uFFFD\uFFFD‘’“”•–—\uFFFD\u2122" ++
       "\uFFFD›\uFFFD\uFFFD\uFFFD\uFFFD\u00A0\u0385Ά£¤¥¦§\u00A8©\uFFFD«¬\u00AD®―°±\u00B2" ++
       "\u00B3\u0384\u00B5¶·ΈΉΊ»Ό\u00BDΎΏΐΑΒΓΔΕΖΗΘΙΚΛΜΝΞΟΠΡ\uFFFDΣΤΥΦΧΨΩΪΫάέήίΰαβγδεζηθικλμνξ" ++
       "οπρςστυφχψωϊϋόύώ\uFFFD" },
   { name := "cp1254"
     aliases := ["1254", "windows_1254"]
     chars := ofHigh <|
       "€\uFFFD‚ƒ„\u2026†‡\u02C6‰Š‹Œ\uFFFD\uFFFD\uFFFD\uFFFD‘’“”•–—\u02DC\u2122š›œ\uFFFD" ++
       "\uFFFDŸ\u00A0¡¢£¤¥¦§\u00A8©\u00AA«¬\u00AD®\u00AF°±\u00B2\u00B3\u00B4\u00B5¶·\u00B8" ++
       "\u00B9\u00BA»\u00BC\u00BD\u00BE¿ÀÁÂÃÄÅÆÇÈÉÊËÌÍÎÏĞÑÒÓÔÕÖ×ØÙÚÛÜİŞßàáâãäåæçèéêëìíîïğñòóô" ++
       "õö÷øùúûüışÿ" },
   { name := "cp1255"
     aliases := ["1255", "windows_1255"]
     chars := ofHigh <|
       "€\uFFFD‚ƒ„\u2026†‡\u02C6‰\uFFFD‹\uFFFD\uFFFD\uFFFD\uFFFD\uFFFD‘’“”•–—\u02DC\u2122" ++
       "\uFFFD›\uFFFD\uFFFD\uFFFD\uFFFD\u00A0¡¢£₪¥¦§\u00A8©×«¬\u00AD®\u00AF°±\u00B2\u00B3" ++
       "\u00B4\u00B5¶·\u00B8\u00B9÷»\u00BC\u00BD\u00BE¿\u05B0\u05B1\u05B2\u05B3\u05B4\u05B5" ++
       "\u05B6\u05B7\u05B8\u05B9\uFFFD\u05BB\u05BC\u05BD\u05BE\u05BF\u05C0\u05C1\u05C2\u05C3" ++
       "\u05F0\u05F1\u05F2\u05F3\u05F4\uFFFD\uFFFD\uFFFD\uFFFD\uFFFD\uFFFD\uFFFD\u05D0\u05D1" ++
       "\u05D2\u05D3\u05D4\u05D5\u05D6\u05D7\u05D8\u05D9\u05DA\u05DB\u05DC\u05DD\u05DE\u05DF" ++
       "\u05E0\u05E1\u05E2\u05E3\u05E4\u05E5\u05E6\u05E7\u05E8\u05E9\u05EA\uFFFD\uFFFD\u200E" ++
       "\u200F\uFFFD" },
   { name := "cp1256"
     aliases := ["1256", "windows_1256"]
     chars := ofHigh <|
       "€\u067E‚ƒ„\u2026†‡\u02C6‰\u0679‹Œ\u0686\u0698\u0688\u06AF‘’“”•–—\u06A9\u2122\u0691›œ" ++
       "\u200C\u200D\u06BA\u00A0،¢£¤¥¦§\u00A8©\u06BE«¬\u00AD®\u00AF°±\u00B2\u00B3\u00B4\u00B5" ++
       "¶·\u00B8\u00B9\u061B»\u00BC\u00BD\u00BE\u061F\u06C1\u0621\u0622\u0623\u0624\u0625" ++
       "\u0626\u0627\u0628\u0629\u062A\u062B\u062C\u062D\u062E\u062F\u0630\u0631\u0632\u0633" ++
       "\u0634\u0635\u0636×\u0637\u0638\u0639\u063A\u0640\u0641\u0642\u0643à\u0644â\u0645" ++
       "\u0646\u0647\u0648çèéêë\u0649\u064Aîï\u064B\u064C\u064D\u064Eô\u064F\u0650÷\u0651ù" ++
       "\u0652ûü\u200E\u200F\u06D2" },
   { name := "cp1257"
     aliases := ["1257", "windows_1257"]
     chars := ofHigh <|
       "€\uFFFD‚\uFFFD„\u2026†‡\uFFFD‰\uFFFD‹\uFFFD\u00A8\u02C7\u00B8\uFFFD‘’“”•–—\uFFFD" ++
       "\u2122\uFFFD›\uFFFD\u00AF\u02DB\uFFFD\u00A0\uFFFD¢£¤\uFFFD¦§Ø©Ŗ«¬\u00AD®Æ°±\u00B2" ++
       "\u00B3\u00B4\u00B5¶·ø\u00B9ŗ»\u00BC\u00BD\u00BEæĄĮĀĆÄÅĘĒČÉŹĖĢĶĪĻŠŃŅÓŌÕÖ×ŲŁŚŪÜŻŽßąįāćä" ++
       "åęēčéźėģķīļšńņóōõö÷ųłśūüżž\u02D9" },
   { name := "cp1258"
     aliases := ["1258", "windows_1258"]
     chars := ofHigh <|
       "€\uFFFD‚ƒ„\u2026†‡\u02C6‰\uFFFD‹Œ\uFFFD\uFFFD\uFFFD\uFFFD‘’“”•–—\u02DC\u2122\uFFFD›œ" ++
       "\uFFFD\uFFFDŸ\u00A0¡¢£¤¥¦§\u00A8©\u00AA«¬\u00AD®\u00AF°±\u00B2\u00B3\u00B4\u00B5¶·" ++
       "\u00B8\u00B9\u00BA»\u00BC\u00BD\u00BE¿ÀÁÂĂÄÅÆÇÈÉÊË\u0300ÍÎÏĐÑ\u0309ÓÔƠÖ×ØÙÚÛÜƯ\u0303ß" ++
       "àáâăäåæçèéêë\u0301íîïđñ\u0323óôơö÷øùúûüư₫ÿ" },
   { name := "kz1048"
     aliases := ["kz_1048", "rk1048", "strk1048_2002"]
     chars := ofHigh <|
       "ЂЃ‚ѓ„\u2026†‡€‰Љ‹ЊҚҺЏђ‘’“”•–—\uFFFD\u2122љ›њқһџ\u00A0ҰұӘ¤Ө¦§Ё©Ғ«¬\u00AD®Ү°±Ііө\u00B5¶" ++
       "·ё\u2116ғ»әҢңүАБВГДЕЖЗИЙКЛМНОПРСТУФХЦЧШЩЪЫЬЭЮЯабвгдежзийклмнопрстуфхцчшщъыьэюя" },
   { name := "palmos"
     aliases := []
     chars := ofHigh <|
       "€\u0081‚ƒ„\u2026†‡\u02C6‰Š‹Œ\u2666\u2663\u2665\u2660‘’“”•–—\u02DC\u2122š\u009Bœ\u009D" ++
       "\u009EŸ\u00A0¡¢£¤¥¦§\u00A8©\u00AA«¬\u00AD®\u00AF°±\u00B2\u00B3\u00B4\u00B5¶·\u00B8" ++
       "\u00B9\u00BA»\u00BC\u00BD\u00BE¿ÀÁÂÃÄÅÆÇÈÉÊËÌÍÎÏÐÑÒÓÔÕÖ×ØÙÚÛÜÝÞßàáâãäåæçèéêëìíîïðñòóô" ++
       "õö÷øùúûüýþÿ" },
   { name := "ptcp154"
     aliases := ["cp154", "csptcp154", "cyrillic_asian", "pt154"]
     chars := ofHigh <|
       "ҖҒӮғ„\u2026ҶҮҲүҠӢҢҚҺҸҗ‘’“”•–—ҳҷҡӣңқһҹ\u00A0ЎўЈӨҘҰ§Ё©Ә«¬ӯ®Ҝ°ұІіҙө¶·ё\u2116ә»јҪҫҝАБВГДЕ" ++
       "ЖЗИЙКЛМНОПРСТУФХЦЧШЩЪЫЬЭЮЯабвгдежзийклмнопрстуфхцчшщъыьэюя" }]

end ScriptBindings.Text

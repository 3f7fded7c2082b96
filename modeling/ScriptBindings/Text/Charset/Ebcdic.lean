import ScriptBindings.Text.Charset

/-!
# Character sets of the EBCDIC family
-/

namespace ScriptBindings.Text

/-- The character sets of the EBCDIC family. -/
def ebcdicCharsets : List Charset :=
  [{ name := "cp037"
     aliases := ["037", "csibm037", "ebcdic_cp_ca", "ebcdic_cp_nl", "ebcdic_cp_us",
       "ebcdic_cp_wt", "ibm037", "ibm039"]
     chars :=
       "\x00\x01\x02\x03\u009C\x09\u0086\x7f\u0097\u008D\u008E\x0b\x0c\x0d\x0e\x0f\x10\x11" ++
       "\x12\x13\u009D\u0085\x08\u0087\x18\x19\u0092\u008F\x1c\x1d\x1e\x1f\u0080\u0081\u0082" ++
       "\u0083\u0084\x0a\x17\x1b\u0088\u0089\u008A\u008B\u008C\x05\x06\x07\u0090\u0091\x16" ++
       "\u0093\u0094\u0095\u0096\x04\u0098\u0099\u009A\u009B\x14\x15\u009E\x1a \u00A0âäàáãåçñ" ++
       "¢.<(+|&éêëèíîïìß!$*);¬\x2d\x2fÂÄÀÁÃÅÇÑ¦,%_>?øÉÊËÈÍÎÏÌ\x60:#@'=\"Øabcdefghi«»ðýþ±°jklm" ++
       "nopqr\u00AA\u00BAæ\u00B8Æ¤\u00B5~stuvwxyz¡¿ÐÝÞ®^£¥·©§¶\u00BC\u00BD\u00BE[]\u00AF" ++
       "\u00A8\u00B4×\x7bABCDEFGHI\u00ADôöòóõ\x7dJKLMNOPQR\u00B9ûüùúÿ\\÷STUVWXYZ\u00B2ÔÖÒÓÕ01" ++
       "23456789\u00B3ÛÜÙÚ\u009F" },
   { name := "cp273"
     aliases := ["273", "csibm273", "ibm273"]
     chars :=
       "\x00\x01\x02\x03\u009C\x09\u0086\x7f\u0097\u008D\u008E\x0b\x0c\x0d\x0e\x0f\x10\x11" ++
       "\x12\x13\u009D\u0085\x08\u0087\x18\x19\u0092\u008F\x1c\x1d\x1e\x1f\u0080\u0081\u0082" ++
       "\u0083\u0084\x0a\x17\x1b\u0088\u0089\u008A\u008B\u008C\x05\x06\x07\u0090\u0091\x16" ++
       "\u0093\u0094\u0095\u0096\x04\u0098\u0099\u009A\u009B\x14\x15\u009E\x1a \u00A0â\x7bàáã" ++
       "åçñÄ.<(+!&éêëèíîïì~Ü$*);^\x2d\x2fÂ[ÀÁÃÅÇÑö,%_>?øÉÊËÈÍÎÏÌ\x60:#§'=\"Øabcdefghi«»ðýþ±°j" ++
       "klmnopqr\u00AA\u00BAæ\u00B8Æ¤\u00B5ßstuvwxyz¡¿ÐÝÞ®¢£¥·©@¶\u00BC\u00BD\u00BE¬|\u203E" ++
       "\u00A8\u00B4×äABCDEFGHI\u00ADô¦òóõüJKLMNOPQR\u00B9û\x7dùúÿÖ÷STUVWXYZ\u00B2Ô\\ÒÓÕ01234" ++
       "56789\u00B3Û]ÙÚ\u009F" },
   { name := "cp424"
     aliases := ["424", "csibm424", "ebcdic_cp_he", "ibm424"]
     chars :=
       "\x00\x01\x02\x03\u009C\x09\u0086\x7f\u0097\u008D\u008E\x0b\x0c\x0d\x0e\x0f\x10\x11" ++
       "\x12\x13\u009D\u0085\x08\u0087\x18\x19\u0092\u008F\x1c\x1d\x1e\x1f\u0080\u0081\u0082" ++
       "\u0083\u0084\x0a\x17\x1b\u0088\u0089\u008A\u008B\u008C\x05\x06\x07\u0090\u0091\x16" ++
       "\u0093\u0094\u0095\u0096\x04\u0098\u0099\u009A\u009B\x14\x15\u009E\x1a \u05D0\u05D1" ++
       "\u05D2\u05D3\u05D4\u05D5\u05D6\u05D7\u05D8¢.<(+|&\u05D9\u05DA\u05DB\u05DC\u05DD\u05DE" ++
       "\u05DF\u05E0\u05E1!$*);¬\x2d\x2f\u05E2\u05E3\u05E4\u05E5\u05E6\u05E7\u05E8\u05E9¦,%_>" ++
       "?\uFFFD\u05EA\uFFFD\uFFFD\u00A0\uFFFD\uFFFD\uFFFD\u2017\x60:#@'=\"\uFFFDabcdefghi«»" ++
       "\uFFFD\uFFFD\uFFFD±°jklmnopqr\uFFFD\uFFFD\uFFFD\u00B8\uFFFD¤\u00B5~stuvwxyz\uFFFD" ++
       "\uFFFD\uFFFD\uFFFD\uFFFD®^£¥·©§¶\u00BC\u00BD\u00BE[]\u00AF\u00A8\u00B4×\x7bABCDEFGHI" ++
       "\u00AD\uFFFD\uFFFD\uFFFD\uFFFD\uFFFD\x7dJKLMNOPQR\u00B9\uFFFD\uFFFD\uFFFD\uFFFD\uFFFD" ++
       "\\÷STUVWXYZ\u00B2\uFFFD\uFFFD\uFFFD\uFFFD\uFFFD0123456789\u00B3\uFFFD\uFFFD\uFFFD" ++
       "\uFFFD\u009F" },
   { name := "cp500"
     aliases := ["500", "csibm500", "ebcdic_cp_be", "ebcdic_cp_ch", "ibm500"]
     chars :=
       "\x00\x01\x02\x03\u009C\x09\u0086\x7f\u0097\u008D\u008E\x0b\x0c\x0d\x0e\x0f\x10\x11" ++
       "\x12\x13\u009D\u0085\x08\u0087\x18\x19\u0092\u008F\x1c\x1d\x1e\x1f\u0080\u0081\u0082" ++
       "\u0083\u0084\x0a\x17\x1b\u0088\u0089\u008A\u008B\u008C\x05\x06\x07\u0090\u0091\x16" ++
       "\u0093\u0094\u0095\u0096\x04\u0098\u0099\u009A\u009B\x14\x15\u009E\x1a \u00A0âäàáãåçñ" ++
       "[.<(+!&éêëèíîïìß]$*);^\x2d\x2fÂÄÀÁÃÅÇÑ¦,%_>?øÉÊËÈÍÎÏÌ\x60:#@'=\"Øabcdefghi«»ðýþ±°jklm" ++
       "nopqr\u00AA\u00BAæ\u00B8Æ¤\u00B5~stuvwxyz¡¿ÐÝÞ®¢£¥·©§¶\u00BC\u00BD\u00BE¬|\u00AF" ++
       "\u00A8\u00B4×\x7bABCDEFGHI\u00ADôöòóõ\x7dJKLMNOPQR\u00B9ûüùúÿ\\÷STUVWXYZ\u00B2ÔÖÒÓÕ01" ++
       "23456789\u00B3ÛÜÙÚ\u009F" },
   { name := "cp875"
     aliases := []
     chars :=
       "\x00\x01\x02\x03\u009C\x09\u0086\x7f\u0097\u008D\u008E\x0b\x0c\x0d\x0e\x0f\x10\x11" ++
       "\x12\x13\u009D\u0085\x08\u0087\x18\x19\u0092\u008F\x1c\x1d\x1e\x1f\u0080\u0081\u0082" ++
       "\u0083\u0084\x0a\x17\x1b\u0088\u0089\u008A\u008B\u008C\x05\x06\x07\u0090\u0091\x16" ++
       "\u0093\u0094\u0095\u0096\x04\u0098\u0099\u009A\u009B\x14\x15\u009E\x1a ΑΒΓΔΕΖΗΘΙ[.<(+" ++
       "!&ΚΛΜΝΞΟΠΡΣ]$*);^\x2d\x2fΤΥΦΧΨΩΪΫ|,%_>?\u00A8ΆΈΉ\u00A0ΊΌΎΏ\x60:#@'=\"\u0385abcdefghiα" ++
       "βγδεζ°jklmnopqrηθικλμ\u00B4~stuvwxyzνξοπρσ£άέήϊίόύϋώςτυφχψ\x7bABCDEFGHI\u00ADωΐΰ‘―" ++
       "\x7dJKLMNOPQR±\u00BD\x1a·’¦\\\x1aSTUVWXYZ\u00B2§\x1a\x1a«¬0123456789\u00B3©\x1a\x1a»" ++
       "\u009F" },
   { name := "cp1026"
     aliases := ["1026", "csibm1026", "ibm1026"]
     chars :=
       "\x00\x01\x02\x03\u009C\x09\u0086\x7f\u0097\u008D\u008E\x0b\x0c\x0d\x0e\x0f\x10\x11" ++
       "\x12\x13\u009D\u0085\x08\u0087\x18\x19\u0092\u008F\x1c\x1d\x1e\x1f\u0080\u0081\u0082" ++
       "\u0083\u0084\x0a\x17\x1b\u0088\u0089\u008A\u008B\u008C\x05\x06\x07\u0090\u0091\x16" ++
       "\u0093\u0094\u0095\u0096\x04\u0098\u0099\u009A\u009B\x14\x15\u009E\x1a \u00A0âäàáãå" ++
       "\x7bñÇ.<(+!&éêëèíîïìßĞİ*);^\x2d\x2fÂÄÀÁÃÅ[Ñş,%_>?øÉÊËÈÍÎÏÌı:ÖŞ'=ÜØabcdefghi«»\x7d\x60" ++
       "¦±°jklmnopqr\u00AA\u00BAæ\u00B8Æ¤\u00B5östuvwxyz¡¿]$@®¢£¥·©§¶\u00BC\u00BD\u00BE¬|" ++
       "\u00AF\u00A8\u00B4×çABCDEFGHI\u00ADô~òóõğJKLMNOPQR\u00B9û\\ùúÿü÷STUVWXYZ\u00B2Ô#ÒÓÕ01" ++
       "23456789\u00B3Û\"ÙÚ\u009F" },
   { name := "cp1140"
     aliases := ["1140", "ibm1140"]
     chars :=
       "\x00\x01\x02\x03\u009C\x09\u0086\x7f\u0097\u008D\u008E\x0b\x0c\x0d\x0e\x0f\x10\x11" ++
       "\x12\x13\u009D\u0085\x08\u0087\x18\x19\u0092\u008F\x1c\x1d\x1e\x1f\u0080\u0081\u0082" ++
       "\u0083\u0084\x0a\x17\x1b\u0088\u0089\u008A\u008B\u008C\x05\x06\x07\u0090\u0091\x16" ++
       "\u0093\u0094\u0095\u0096\x04\u0098\u0099\u009A\u009B\x14\x15\u009E\x1a \u00A0âäàáãåçñ" ++
       "¢.<(+|&éêëèíîïìß!$*);¬\x2d\x2fÂÄÀÁÃÅÇÑ¦,%_>?øÉÊËÈÍÎÏÌ\x60:#@'=\"Øabcdefghi«»ðýþ±°jklm" ++
       "nopqr\u00AA\u00BAæ\u00B8Æ€\u00B5~stuvwxyz¡¿ÐÝÞ®^£¥·©§¶\u00BC\u00BD\u00BE[]\u00AF" ++
       "\u00A8\u00B4×\x7bABCDEFGHI\u00ADôöòóõ\x7dJKLMNOPQR\u00B9ûüùúÿ\\÷STUVWXYZ\u00B2ÔÖÒÓÕ01" ++
       "23456789\u00B3ÛÜÙÚ\u009F" }]

end ScriptBindings.Text

import ScriptBindings.Text.Utf8

/-!
# Spelling with several bytes

Texts whose characters have their bytes one by one, and texts in which some neighbours are spelled
together. A text has no bytes at all if one of its characters has none.
-/

namespace ScriptBindings.Text

/-- The byte of an ASCII character. -/
def asciiBytes? (c : Char) : Option Bytes :=
  if c.toNat < 0x80 then some [UInt8.ofNat c.toNat] else none

/-- The bytes of a text whose characters are spelled one by one. -/
def spellEach (spell? : Char → Option Bytes) : List Char → Option Bytes
  | [] => some []
  | c :: cs => do return (← spell? c) ++ (← spellEach spell? cs)

/-- The bytes of a text in which some pairs of neighbours are spelled together. -/
def spellPairs (pair? : Char → Char → Option Bytes) (spell? : Char → Option Bytes) :
    List Char → Option Bytes
  | [] => some []
  | [c] => spell? c
  | c :: d :: cs =>
    match pair? c d with
    | some bytes => (spellPairs pair? spell? cs).map (bytes ++ ·)
    | none => do return (← spell? c) ++ (← spellPairs pair? spell? (d :: cs))

end ScriptBindings.Text

import ScriptBindings.Text.Quoted

/-!
# Escaped text

Text in one byte per character, with characters that have none given by number: `\x`, `\u` or `\U`
and two, four or eight hexadecimal digits.
-/

namespace ScriptBindings.Text.Escaped

/-- A character in printable ASCII characters. -/
def printable (c : Char) : List Char :=
  match c with
  | '\\' => ['\\', '\\']
  | '\t' => ['\\', 't']
  | '\n' => ['\\', 'n']
  | '\r' => ['\\', 'r']
  | _ => if ' ' ≤ c ∧ c < '\x7f' then [c] else byNumber c

/-- A character in characters below U+0100. -/
def narrow (c : Char) : List Char :=
  if c.toNat < 0x100 then [c] else byNumber c

end ScriptBindings.Text.Escaped

import ScriptBindings.Text.Printable

/-!
# Quoted text

How a message shows a text that may hold anything: between quotes, with escapes for the backslash,
the quote in use, line breaks, tabs and all characters that do not print.
-/

namespace ScriptBindings.Text

/-- A number as `width` small hexadecimal digits, the leading ones cut off. -/
def hexDigits : (width : Nat) → Nat → List Char
  | 0, _ => []
  | width + 1, n => hexDigits width (n / 16) ++ [Nat.digitChar (n % 16)]

/-- The quote put around a text: the single one, unless the text holds it and no double one. -/
def quoteMark (s : List Char) : Char :=
  if '\'' ∈ s ∧ '"' ∉ s then '"' else '\''

/-- A character by its code point, in the shortest of three widths. -/
def byNumber (c : Char) : List Char :=
  if c.toNat < 0x100 then '\\' :: 'x' :: hexDigits 2 c.toNat
  else if c.toNat < 0x10000 then '\\' :: 'u' :: hexDigits 4 c.toNat
  else '\\' :: 'U' :: hexDigits 8 c.toNat

/-- A character as it stands between `mark`s. Characters that do not print are given by their code
point. -/
def escaped (mark c : Char) : List Char :=
  if c = mark ∨ c = '\\' then ['\\', c]
  else if c = '\n' then ['\\', 'n']
  else if c = '\r' then ['\\', 'r']
  else if c = '\t' then ['\\', 't']
  else if isPrintable c then [c]
  else byNumber c

/-- A text between quotes. -/
def quoted (s : List Char) : List Char :=
  let mark := quoteMark s
  mark :: s.flatMap (escaped mark) ++ [mark]

end ScriptBindings.Text

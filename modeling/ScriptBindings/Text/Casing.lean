import ScriptBindings.Text.CaseIgnorable
import ScriptBindings.Text.CaseMapping
import ScriptBindings.Text.Digit
import ScriptBindings.Text.Lowercase
import ScriptBindings.Text.Uppercase

/-!
# The case of whole texts

Where several characters are taken together, they are in capitals if there is a capital letter among
them and no other letter, and the small spelling of a capital sigma depends on whether it ends a
word.
-/

namespace ScriptBindings.Text

/-- Whether a text has letters, and all of them are capitals. -/
def isCapitals (s : List Char) : Bool :=
  s.any isUppercase && !s.any isLowercaseOrTitle

/-- Whether a text consists of digits. -/
def isNumeral (s : List Char) : Bool :=
  !s.isEmpty && s.all isDigit

/-- Whether the first character that counts is a letter of some case. -/
def beginsWithLetter (s : List Char) : Bool :=
  (s.find? fun c => !isCaseIgnorable c).any fun c => isUppercase c || isLowercaseOrTitle c

/-- The small spelling of a text, given the characters before it, the nearest one first. -/
def smallAfter : (before : List Char) → List Char → List Char
  | _, [] => []
  | before, c :: cs =>
    let small :=
      if c = 'Σ' ∧ beginsWithLetter before ∧ ¬ beginsWithLetter cs then ['ς'] else lowercase c
    small ++ smallAfter (c :: before) cs

/-- The small spelling of a text. -/
def small (s : List Char) : List Char :=
  smallAfter [] s

end ScriptBindings.Text

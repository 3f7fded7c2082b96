import ScriptBindings.Text.DomainName.Direction
import ScriptBindings.Text.DomainName.Folding
import ScriptBindings.Text.Normal
import ScriptBindings.Text.Punycode

/-!
# Domain names

Domain names in ASCII characters. A name consists of labels between dots; a label with other
characters is folded, brought into normal form and written in Punycode behind a mark. Names with
empty labels, with labels that are too long or with characters that do not belong there are refused.
-/

namespace ScriptBindings.Text.DomainName

/-! ## Labels -/

/-- The characters that no label may have once it is folded and normal. -/
def prohibitedRuns : List CharRun :=
  [⟨0x80, 0xA0, 1⟩, ⟨0x340, 0x341, 1⟩, ⟨0x6DD, 0x6DD, 1⟩, ⟨0x70F, 0x70F, 1⟩, ⟨0x1680, 0x1680, 1⟩,
   ⟨0x180E, 0x180E, 1⟩, ⟨0x2000, 0x200F, 1⟩, ⟨0x2028, 0x202F, 1⟩, ⟨0x205F, 0x2063, 1⟩,
   ⟨0x206A, 0x206F, 1⟩, ⟨0x2FF0, 0x2FFB, 1⟩, ⟨0x3000, 0x3000, 1⟩, ⟨0xE000, 0xF8FF, 1⟩,
   ⟨0xFDD0, 0xFDEF, 1⟩, ⟨0xFEFF, 0xFEFF, 1⟩, ⟨0xFFF9, 0xFFFF, 1⟩, ⟨0x1D173, 0x1D17A, 1⟩,
   ⟨0x1FFFE, 0x1FFFF, 1⟩, ⟨0x2FFFE, 0x2FFFF, 1⟩, ⟨0x3FFFE, 0x3FFFF, 1⟩, ⟨0x4FFFE, 0x4FFFF, 1⟩,
   ⟨0x5FFFE, 0x5FFFF, 1⟩, ⟨0x6FFFE, 0x6FFFF, 1⟩, ⟨0x7FFFE, 0x7FFFF, 1⟩, ⟨0x8FFFE, 0x8FFFF, 1⟩,
   ⟨0x9FFFE, 0x9FFFF, 1⟩, ⟨0xAFFFE, 0xAFFFF, 1⟩, ⟨0xBFFFE, 0xBFFFF, 1⟩, ⟨0xCFFFE, 0xCFFFF, 1⟩,
   ⟨0xDFFFE, 0xDFFFF, 1⟩, ⟨0xE0001, 0xE0001, 1⟩, ⟨0xE0020, 0xE007F, 1⟩, ⟨0xEFFFE, 0x10FFFF, 1⟩]

/-- Whether all characters are of ASCII. -/
def isAscii (s : List Char) : Bool :=
  s.all (·.toNat < 0x80)

/-- Whether the direction of a label is clear: it has no character that is written from right to
left, or else it begins and ends with one and has none that is written from left to right. -/
def isDirected (label : List Char) : Bool :=
  !label.any isRightToLeft
    || (!label.any isLeftToRight && label.head?.any isRightToLeft
      && label.getLast?.any isRightToLeft)

/-- A label folded and in normal form, if that has only characters that it may have. -/
def prepared? (label : List Char) : Option (List Char) :=
  let normal := Normal.form ((label.filter (!isIgnored ·)).flatMap fold)
  if normal.any (covered prohibitedRuns) || !isDirected normal then none else some normal

/-- A label, if it has a length that labels may have. -/
def sized? (label : List Char) : Option (List Char) :=
  if 0 < label.length ∧ label.length < 64 then some label else none

/-- What the labels in Punycode begin with. -/
def mark : List Char := "xn--".toList

/-- A label in ASCII characters. -/
def asciiLabel? (label : List Char) : Option (List Char) :=
  if isAscii label then sized? label
  else do
    let label ← prepared? label
    if isAscii label then sized? label
    else if mark.isPrefixOf label then none
    else sized? (mark ++ Punycode.encode label)

/-! ## Names -/

/-- The labels between the characters of a kind. -/
def labels (isDot : Char → Bool) : List Char → List (List Char)
  | [] => [[]]
  | c :: cs =>
    if isDot c then [] :: labels isDot cs
    else match labels isDot cs with
      | first :: rest => (c :: first) :: rest
      | [] => [[c]]

/-- Whether a character separates labels. -/
def isDot (c : Char) : Bool :=
  c == '.' || c == '\u3002' || c == '\uFF0E' || c == '\uFF61'

/-- A name that is in ASCII characters already. Only its last label may be empty. -/
def ofAscii? (name : List Char) : Option (List Char) :=
  let parts := labels (· == '.') name
  if parts.dropLast.all (sized? · |>.isSome) && parts.getLast?.all (·.length < 64) then some name
  else none

/-- A name in ASCII characters. -/
def encode? (name : List Char) : Option (List Char) :=
  if isAscii name then ofAscii? name
  else
    let parts := labels isDot name
    let isRooted := parts.getLast?.any List.isEmpty
    do
      let written ← (if isRooted then parts.dropLast else parts).mapM asciiLabel?
      return List.intercalate ['.'] written ++ if isRooted then ['.'] else []

end ScriptBindings.Text.DomainName

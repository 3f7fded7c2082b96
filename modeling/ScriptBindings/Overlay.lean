import ScriptBindings.Text.Decimal
import ScriptBindings.Text.Utf8

/-!
# Script overlays

A project file declares each script overlay in a line of the form

    Overlay<number>=[-]<name>|<path>|<depth>

where the depth says how many super classes become directories. `declaredDepth?` finds the depth of
an overlay in a text, and `readDepth` in a file.
-/

namespace ScriptBindings.Overlay

/-- The depth is given with more digits than a number may have. -/
structure TooManyDigits where
  count : Nat
  deriving DecidableEq, Repr

/-- The digits of a depth: those behind the first bar on the line that has a digit behind it. -/
def depthField? : List Char → Option (List Char)
  | [] => none
  | c :: cs =>
    if c = '|' ∧ (cs.head?.any Char.isDigit) then some (cs.takeWhile Char.isDigit)
    -- a declaration does not go on in the next line
    else if c = '\n' then none
    else depthField? cs

/-- The depth in a declaration of which the name is still to come. -/
def afterSign? (name s : List Char) : Option (List Char) :=
  ((name ++ ['|']).isPrefixOf? s).bind depthField?

/-- The depth in a declaration that begins a text. -/
def declarationAt? (name s : List Char) : Option (List Char) := do
  let s ← "Overlay".toList.isPrefixOf? s
  if (s.takeWhile Char.isDigit).isEmpty then none
  let s ← ['='].isPrefixOf? (s.dropWhile Char.isDigit)
  match s with
  -- the minus may be the sign, or else the first character of the name
  | '-' :: rest => afterSign? name rest <|> afterSign? name s
  | _ => afterSign? name s

/-- The digits of the depth of an overlay, from its first declaration anywhere in a text. -/
def depthDigits? (name : List Char) : List Char → Option (List Char)
  | [] => none
  | c :: cs => declarationAt? name (c :: cs) <|> depthDigits? name cs

/-- The depth that a text declares for an overlay, if it is positive. -/
def declaredDepth? (name s : List Char) : Except TooManyDigits (Option Nat) :=
  match depthDigits? name s with
  | none => .ok none
  | some digits =>
    match Text.readDigits? digits with
    | none => .error ⟨digits.length⟩
    | some depth => .ok (if depth = 0 then none else some depth)

/-- A text with every line end written as a line feed. -/
def plainLineEnds : List Char → List Char
  | '\r' :: '\n' :: cs => '\n' :: plainLineEnds cs
  | '\r' :: cs => '\n' :: plainLineEnds cs
  | c :: cs => c :: plainLineEnds cs
  | [] => []

/-- The depth that the content of a file declares for an overlay. -/
def readDepth (name : String) (bytes : Bytes) : Except TooManyDigits (Option Nat) :=
  declaredDepth? name.toList (plainLineEnds (Text.Utf8.decodeReplacing bytes))

end ScriptBindings.Overlay

import ScriptBindings.Json.Shown
import ScriptBindings.Name.Variable
import ScriptBindings.Text.Blank
import ScriptBindings.Text.Word

/-!
# Comment blocks

The block of `//` lines at the top of a script file: the tooltip of the declaration, what it is and
how the host calls it, and its category. A tooltip names parameters as the host does, so the word
after each `@param` is spelled as a script variable.

* `spellParameters` respells the words that name parameters;
* `block` is the whole block, and `blockOf` the one of a declaration as it was given.
-/

namespace ScriptBindings.Comment

open Text

/-- What a comment is about. -/
inductive Subject where
  | method
  | classType
  | struct
  | property
  | enum
  | other
  deriving DecidableEq, Repr

/-- The word for what a comment is about. -/
def Subject.word : Subject → String
  | method => "method"
  | classType => "class"
  | struct => "struct"
  | property => "property"
  | enum => "enum"
  | other => "field"

/-- Whether six characters spell `@param`, in letters of any case. -/
def isMarker (s : List Char) : Bool :=
  s.map Char.toLower == "@param".toList

/-- Respells the parameter name after each `@param`: the word behind the white space that follows.
All other text stays as it is. -/
def spellParameters : List Char → List Char
  | c₁ :: c₂ :: c₃ :: c₄ :: c₅ :: c₆ :: rest =>
    if isMarker [c₁, c₂, c₃, c₄, c₅, c₆] then
      -- neither white space nor words hold an `@`, so no marker is skipped
      let named := rest.dropWhile isBlank
      [c₁, c₂, c₃, c₄, c₅, c₆] ++ rest.takeWhile isBlank
        ++ Name.ofVariable (named.takeWhile isWord) false false
        ++ spellParameters (named.dropWhile isWord)
    else c₁ :: spellParameters (c₂ :: c₃ :: c₄ :: c₅ :: c₆ :: rest)
  | s => s
termination_by s => s.length
decreasing_by
  · have h₁ := (List.dropWhile_sublist isBlank (l := rest)).length_le
    have h₂ := (List.dropWhile_sublist isWord (l := rest.dropWhile isBlank)).length_le
    simp only [List.length_cons]
    omega
  · simp

/-- The lines of a tooltip as comment lines. -/
def commented (tooltip : List Char) : List Char :=
  "// ".toList ++ tooltip.flatMap (fun c => if c = '\n' then "\n// ".toList else [c]) ++ ['\n']

/-- The part of a block that shows the tooltip; there is none for an empty one. -/
def tooltipLines (tooltip : List Char) : List Char :=
  if tooltip = [] then [] else spellParameters (commented tooltip)

/-- The comment block of a declaration. It ends in an empty line. -/
def block (subject : Subject) (name tooltip category : String) : String :=
  String.ofList (tooltipLines tooltip.toList)
    ++ "//\n// UE4 name of this " ++ subject.word ++ ": " ++ name ++ "\n"
    ++ (if category = "" then "" else "// Blueprint category: " ++ category ++ "\n")
    ++ "\n"

/-- The comment block of a declaration whose name, tooltip and category may be any values. Values
that say nothing are left out, and all but the tooltip are shown as they are in messages. -/
def blockOf (subject : Subject) (name tooltip category : Json) : Except NotText String := do
  let lines ← if tooltip.isTelling then tooltip.requireText else .ok ""
  let placed := if category.isTelling then category.shown else ""
  return block subject name.shown lines placed

end ScriptBindings.Comment

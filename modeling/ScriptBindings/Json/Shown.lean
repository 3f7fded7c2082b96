import ScriptBindings.Json
import ScriptBindings.Text.Quoted

/-!
# JSON values in messages

How a message shows a JSON value. A text stands as it is, unless it is part of another value; there
it is quoted.
-/

namespace ScriptBindings.Json

/-- Items with commas between them. -/
def commaSeparated : List (List Char) → List Char
  | [] => []
  | [item] => item
  | item :: items => item ++ ", ".toList ++ commaSeparated items

mutual

/-- How a value is shown within another one. -/
def nested : Json → List Char
  | text s => Text.quoted s.toList
  | scalar s => s.shown.toList
  | array items => '[' :: commaSeparated (nestedItems items) ++ [']']
  | object members => '\x7b' :: commaSeparated (nestedMembers members) ++ ['\x7d']

/-- How the items of a list are shown. -/
def nestedItems : List Json → List (List Char)
  | [] => []
  | item :: items => nested item :: nestedItems items

/-- How the members of an object are shown. -/
def nestedMembers : List (String × Json) → List (List Char)
  | [] => []
  | (name, value) :: members =>
    (Text.quoted name.toList ++ ": ".toList ++ nested value) :: nestedMembers members

end

/-- How a value is shown. -/
def shown : Json → String
  | scalar s => s.shown
  | j => String.ofList (nested j)

end ScriptBindings.Json

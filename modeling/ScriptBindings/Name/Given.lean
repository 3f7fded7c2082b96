import ScriptBindings.Json
import ScriptBindings.Name.Method
import ScriptBindings.Text.Casing

/-!
# Names as they are given

A host name is a text, but a dump may give a list of texts in its place. The items of a list are
taken for the characters of a name, and each of them may have several characters. A value that says
nothing is no name and stays as it is; all other values cannot be spelled.

* `isBoolean`, `asVariable` and `asMethod` do with a value what the functions of the same purpose do
  with a text.
-/

namespace ScriptBindings

/-- Why a value cannot be spelled as a name. -/
inductive NameError where
  /-- A text is needed. -/
  | notText (given : Json)
  /-- A text is needed to look at its letters. -/
  | noLetters (given : Json)
  /-- An object has no first item. -/
  | noItem (place : Nat)
  deriving DecidableEq, Repr

namespace Name.Given

open Text

/-- Whether a name has the form of a truth value. -/
def isBoolean : Json → Except NameError Bool
  | .text s => .ok (Name.isBoolean s.toList)
  | .array (first :: second :: _ :: _) =>
    if first = .text "b" then
      match second with
      | .text s => .ok (isCapitals s.toList)
      | given => .error (.noLetters given)
    else .ok false
  | .array _ => .ok false
  | .object (_ :: _ :: _ :: _) => .error (.noItem 0)
  | .object _ => .ok false
  | given => .error (.notText given)

/-- Texts that separate the words of a name: parts of the row of all separators. -/
def separators : List (List Char) :=
  ["", " ", ":", "_", " :", ":_", " :_"].map String.toList

/-- Spells the rest of a name that is given by items, given whether the last item was upper-like and
whether the spelling stands at its beginning or behind an underscore. -/
def spellItems : (upper gap : Bool) → List Json → Except NameError (List Char)
  | _, _, [] => .ok []
  | upper, gap, .text s :: items =>
    let cs := s.toList
    if cs = ['?'] then spellItems upper gap items
    else if cs ∈ separators then
      if gap then spellItems upper gap items
      else (spellItems upper true items).map ('_' :: ·)
    else
      let upperLike := isCapitals cs || isNumeral cs
      (spellItems upperLike false items).map fun rest =>
        let word := small cs ++ rest
        if upperLike && !upper && !gap then '_' :: word else word
  | _, _, given :: _ => .error (.notText given)

/-- The script name of a host variable. A list must not be long enough to be looked through for a
content hash. -/
def asVariable (name : Json) (question member : Bool) : Except NameError Json :=
  if !name.isTelling then .ok name
  else
    match name with
    | .text s => .ok (.text (String.ofList (ofVariable s.toList question member)))
    | .array items => do
      if hashLength < items.length then throw (.notText name)
      let marked ← isBoolean name
      let spelled ← spellItems true true (if marked then items.drop 1 else items)
      return .text (String.ofList (placed spelled question member))
    | .object members => do
      if hashLength < members.length then throw (.notText name)
      let _ ← isBoolean name
      throw (.notText name)
    | _ => .error (.notText name)

/-- The script name of a host function. -/
def asMethod (name : Json) (returnsBoolean : Bool) : Except NameError String :=
  match name with
  | .array [] | .object [] => .error (.noLetters name)
  | _ => do
    match ← asVariable name false false with
    | .text spelled =>
      return String.ofList (ofSpelled spelled.toList (← isBoolean name) returnsBoolean)
    | given => throw (.notText given)

end Name.Given

end ScriptBindings

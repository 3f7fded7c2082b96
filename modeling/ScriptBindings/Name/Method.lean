import ScriptBindings.Name.Variable

/-!
# Method names

The script spelling of host functions. It is the spelling as a variable without a leading `k2_`;
a setter `set_x` becomes `x_set`, and a function that returns a truth value and has the form of a
getter or of a predicate ends in a question mark: `GetIsEnabled` is spelled `is_enabled?`.
-/

namespace ScriptBindings.Name

open Text

/-- A name without a leading `k2_`, unless a digit follows or nothing does. -/
def dropKismetMark : List Char → List Char
  | 'k' :: '2' :: '_' :: c :: cs => if isDigit c then 'k' :: '2' :: '_' :: c :: cs else c :: cs
  | s => s

/-- What a getter gets: the rest of a name after `get_`, unless it begins with a digit or is
empty. -/
def getterTarget? : List Char → Option (List Char)
  | 'g' :: 'e' :: 't' :: '_' :: c :: cs => if isDigit c then none else some (c :: cs)
  | _ => none

/-- What a setter sets: the rest of a name after `set_`, unless it begins with a digit or is
empty. -/
def setterTarget? : List Char → Option (List Char)
  | 's' :: 'e' :: 't' :: '_' :: c :: cs => if isDigit c then none else some (c :: cs)
  | _ => none

/-- Whether a script name asks a question. -/
def isPredicate (s : List Char) : Bool :=
  ["is_", "has_", "can_"].any (·.toList.isPrefixOf s)

/-- The script name of a host function, given its spelling as a variable, whether it is called like
a truth value, and whether it returns one. -/
def ofSpelled (spelled : List Char) (calledBoolean returnsBoolean : Bool) : List Char :=
  let base := dropKismetMark spelled
  match getterTarget? base with
  | some target => if returnsBoolean then target ++ ['?'] else base
  | none =>
    -- a setter may still have the name of a predicate, as in `is_open_set`
    let action := match setterTarget? base with
      | some target => target ++ "_set".toList
      | none => base
    if returnsBoolean && (calledBoolean || isPredicate action) then action ++ ['?'] else action

/-- The script name of a host function, given whether it returns a truth value. -/
def ofMethod (name : List Char) (returnsBoolean : Bool) : List Char :=
  ofSpelled (ofVariable name false false) (isBoolean name) returnsBoolean

end ScriptBindings.Name

import ScriptBindings.Scalar
import ScriptBindings.Table

/-!
# JSON values

The values that a model dump is made of. The members of an object have distinct names and keep the
order in which the names first came.
-/

namespace ScriptBindings

/-- A JSON value. -/
inductive Json where
  | scalar (s : Scalar)
  | array (items : List Json)
  | object (members : List (String × Json))
  deriving Repr

namespace Json

/-- The value that says nothing. -/
@[match_pattern] abbrev null : Json := scalar .null

/-- A truth value. -/
@[match_pattern] abbrev bool (b : Bool) : Json := scalar (.bool b)

/-- A whole number. -/
@[match_pattern] abbrev int (n : Int) : Json := scalar (.int n)

/-- A text. -/
@[match_pattern] abbrev text (s : String) : Json := scalar (.text s)

/-- The value of a member of an object. -/
def member? (j : Json) (name : String) : Option Json :=
  match j with
  | object members => Table.findPair name members
  | _ => none

/-- Whether a value says something: neither null nor false, neither zero nor empty. -/
def isTelling : Json → Bool
  | scalar s => s.isTelling
  | array items => !items.isEmpty
  | object members => !members.isEmpty

/-- The elements of a value that can be listed. A text lists its characters, and an object the names
of its members. -/
def elements? : Json → Option (List Json)
  | array items => some items
  | text s => some (s.toList.map fun c => text (String.singleton c))
  | object members => some (members.map fun m => text m.1)
  | _ => none

/-! ## Equality -/

mutual

/-- Decides whether two values are equal. -/
def decEq : (a b : Json) → Decidable (a = b)
  | scalar s, scalar t => decidable_of_iff (s = t) (by simp)
  | array xs, array ys =>
    have := decEqItems xs ys
    decidable_of_iff (xs = ys) (by simp)
  | object ms, object ns =>
    have := decEqMembers ms ns
    decidable_of_iff (ms = ns) (by simp)
  | scalar _, array _ | scalar _, object _ | array _, scalar _ | array _, object _
  | object _, scalar _ | object _, array _ => isFalse (by simp)

/-- Decides whether two lists of values are equal. -/
def decEqItems : (as bs : List Json) → Decidable (as = bs)
  | [], [] => isTrue rfl
  | [], _ :: _ | _ :: _, [] => isFalse (by simp)
  | a :: as, b :: bs =>
    have := decEq a b
    have := decEqItems as bs
    decidable_of_iff (a = b ∧ as = bs) (by simp)

/-- Decides whether two lists of members are equal. -/
def decEqMembers : (ms ns : List (String × Json)) → Decidable (ms = ns)
  | [], [] => isTrue rfl
  | [], _ :: _ | _ :: _, [] => isFalse (by simp)
  | (k, a) :: ms, (l, b) :: ns =>
    have := decEq a b
    have := decEqMembers ms ns
    decidable_of_iff ((k = l ∧ a = b) ∧ ms = ns) (by simp)

end

instance : DecidableEq Json := decEq

end Json

/-! ## Texts -/

/-- A text is needed where another value was given. -/
structure NotText where
  given : Json
  deriving DecidableEq, Repr

/-- The text of a value that has to be one. -/
def Json.requireText : Json → Except NotText String
  | text s => .ok s
  | given => .error ⟨given⟩

end ScriptBindings

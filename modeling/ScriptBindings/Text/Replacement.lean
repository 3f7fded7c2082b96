/-!
# Replacement of characters

Tables that replace characters with several ones, given as runs of consecutive code points.
-/

namespace ScriptBindings.Text

/-- Consecutive code points from `first` on, each replaced with the next `size` characters of
`text`. -/
structure ReplacementRun where
  first : Nat
  size : Nat
  text : String
  deriving DecidableEq, Repr

/-- What a run replaces a character with. -/
def ReplacementRun.replacement? (r : ReplacementRun) (c : Char) : Option (List Char) :=
  let rest := r.text.toList.drop ((c.toNat - r.first) * r.size)
  if r.first ≤ c.toNat ∧ rest ≠ [] then some (rest.take r.size) else none

/-- What a table replaces a character with. -/
def replacement? (runs : List ReplacementRun) (c : Char) : Option (List Char) :=
  runs.findSome? (·.replacement? c)

end ScriptBindings.Text

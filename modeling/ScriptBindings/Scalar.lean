import ScriptBindings.Binary64.Shortest

/-!
# Single values

The values of a JSON text that have no parts. A declaration is mostly called by a text, but any
single value can stand in the place of a name.

* `shown` is how a message shows a value;
* `key` tells which names are one and the same: two values are, if they have the same key.
-/

namespace ScriptBindings

/-- A value without parts. -/
inductive Scalar where
  | null
  | bool (b : Bool)
  | int (n : Int)
  | real (x : Binary64)
  | text (s : String)
  deriving DecidableEq, Repr

namespace Scalar

/-- Whether a value says something: neither null nor false, neither zero nor empty. -/
def isTelling : Scalar → Bool
  | null => false
  | bool b => b
  | int n => n != 0
  | real x => !x.isZero
  | text s => s != ""

/-- How messages show a value. -/
def shown : Scalar → String
  | null => "None"
  | bool true => "True"
  | bool false => "False"
  | int n => toString n
  | real x => x.text
  | text s => s

/-- The value that stands for all values of the same key. A truth value counts as one or zero, and a
number is the same however it is written. -/
def key : Scalar → Scalar
  | bool b => int (if b then 1 else 0)
  | real x =>
    match x.toInt? with
    | some n => int n
    | none => real x
  | s => s

@[simp] theorem key_text (s : String) : (text s).key = text s := rfl

/-- A text has the key of no other value. -/
theorem key_eq_text {s : Scalar} {t : String} : s.key = text t ↔ s = text t := by
  cases s with
  | real x => cases h : x.toInt? <;> simp [key, h]
  | _ => simp [key]

end Scalar

end ScriptBindings

import ScriptBindings.Json

/-!
# Depths

How deep scripts are nested. A depth is a number of directory levels; a truth value counts as one or
zero. A real number may stand for a depth too, as long as nothing has to be counted with it: it can
only tell that there is room for all of some levels, or for none of them.

* `ofJson?` reads a depth;
* `isBelowOne` tells whether a depth leaves no room at all;
* `room?` is the number of levels that a depth has room for.
-/

namespace ScriptBindings

/-- How deep scripts are nested. -/
inductive Depth where
  | levels (n : Int)
  | real (x : Binary64)
  deriving DecidableEq, Repr

namespace Depth

/-- The depth that a value is. -/
def ofJson? : Json → Option Depth
  | .bool b => some (levels (if b then 1 else 0))
  | .int n => some (levels n)
  | .scalar (.real x) => some (real x)
  | _ => none

/-- Whether a depth is below one. -/
def isBelowOne : Depth → Bool
  | levels n => n < 1
  | real x => x.isBelow 1

/-- The whole number that a depth is, without what stands behind a point. -/
def wholePart? : Depth → Option Int
  | levels n => some n
  | real x => x.wholePart?

/-- How many of `wanted` levels there is room for, when `reserved` levels are taken already. A real
number does not count levels, so it has to have room for all of them or for less than none. -/
def room? (d : Depth) (reserved wanted : Nat) : Option Nat :=
  match d with
  | levels n => some (min (n - reserved).toNat wanted)
  | real x =>
    if x.isBelow reserved then some 0
    else if x.isAbove (reserved + wanted) then some wanted
    else none

/-- A whole number of levels has room for as many as are left. -/
@[simp] theorem room?_levels (n : Int) (reserved wanted : Nat) :
    (levels n).room? reserved wanted = some (min (n - reserved).toNat wanted) := rfl

end Depth

end ScriptBindings

import ScriptBindings.Model.Basic

/-!
# Ancestors

The supers of a struct, nearest first. A dump may declare cycles, so the climb is bounded: it gives
up when it comes back to its start, or when it has gone through `maxAncestors` supers.

* `climb` goes up along any parent function;
* `Model.ancestors` and `Model.ancestors?` do so in a model.
-/

namespace ScriptBindings

/-- The supers that a climb goes through before it gives up. -/
def maxAncestors : Nat := 256

/-- What a climb came through, and whether it reached the top. -/
structure Climb (α : Type) where
  reached : List α
  ended : Bool
  deriving DecidableEq, Repr

/-- Climbs on from `next`, for at most `budget` steps and never through `start`. The top counts as
reached only if there is a step left to look. -/
def climbFrom {α : Type} [DecidableEq α] (up : α → Option α) (start : α) :
    (budget : Nat) → (next : Option α) → Climb α
  -- not even the top is recognised any more
  | 0, _ => ⟨[], false⟩
  | _ + 1, none => ⟨[], true⟩
  | budget + 1, some a =>
    if a = start then ⟨[], false⟩
    else
      let rest := climbFrom up start budget (up a)
      ⟨a :: rest.reached, rest.ended⟩

/-- Climbs from `start` to the top. -/
def climb {α : Type} [DecidableEq α] (up : α → Option α) (start : α) : Climb α :=
  climbFrom up start maxAncestors (up start)

/-- The chain of ancestors of a struct does not come to an end. -/
structure HierarchyError where
  start : Scalar
  deriving DecidableEq, Repr

namespace HierarchyError

/-- The text of the error. -/
def message (e : HierarchyError) : String :=
  s!"ancestor chain of '{e.start.shown}' does not terminate"

end HierarchyError

namespace Model

/-- The super of a struct. -/
def parent? (m : Model) (name : Scalar) : Option Scalar :=
  (m.structs.get? name.key).bind (·.parent)

/-- The climb from a struct. -/
def ancestors (m : Model) (name : Scalar) : Climb Scalar :=
  climb m.parent? name

/-- The ancestors of a struct, nearest first, if there is an end to them. -/
def ancestors? (m : Model) (name : Scalar) : Except HierarchyError (List Scalar) :=
  let c := m.ancestors name
  if c.ended then .ok c.reached else .error ⟨name⟩

/-- A struct has ancestors if the climb from it comes to an end. -/
theorem ancestors?_eq_ok {m : Model} {name : Scalar} {as : List Scalar} :
    m.ancestors? name = .ok as ↔ m.ancestors name = ⟨as, true⟩ := by
  rw [ancestors?]
  cases m.ancestors name with
  | mk reached ended => cases ended <;> simp

end Model

end ScriptBindings

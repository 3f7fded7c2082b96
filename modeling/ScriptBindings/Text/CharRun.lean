/-!
# Runs of characters

The properties of characters that names and comments depend on are given as lists of runs. A run
holds every `stride`-th code point from `first` to `last`; scripts whose capital and small letters
alternate make runs of stride two.
-/

namespace ScriptBindings.Text

/-- Every `stride`-th code point from `first` to `last`, both included. -/
structure CharRun where
  first : Nat
  last : Nat
  stride : Nat

/-- Whether a code point lies in the run. -/
def CharRun.covers (r : CharRun) (n : Nat) : Bool :=
  r.first ≤ n && n ≤ r.last && (n - r.first) % r.stride == 0

/-- Whether a character lies in one of the runs. -/
def covered (runs : List CharRun) (c : Char) : Bool :=
  runs.any (·.covers c.toNat)

/-- A run holds nothing below its first code point. -/
theorem CharRun.covers_eq_false_of_lt {r : CharRun} {n : Nat} (h : n < r.first) :
    r.covers n = false := by
  simp [covers, Nat.not_le.mpr h]

/-- Runs that all start at `bound` or later hold no character below it. -/
theorem covered_eq_false_of_lt {runs : List CharRun} {bound : Nat} {c : Char}
    (h : ∀ r ∈ runs, bound ≤ r.first) (hc : c.toNat < bound) : covered runs c = false := by
  simp only [covered, List.any_eq_false, Bool.not_eq_true]
  exact fun r hr => CharRun.covers_eq_false_of_lt (Nat.lt_of_lt_of_le hc (h r hr))

end ScriptBindings.Text

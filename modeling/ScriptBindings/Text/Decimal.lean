/-!
# Decimal numbers

Whole numbers written in ASCII digits. A number with more than `maxDigits` digits is not read.
-/

namespace ScriptBindings.Text

/-- The most digits that a number may be written with, leading zeros included. -/
def maxDigits : Nat := 4300

/-- The number that decimal digits stand for. -/
def natOfDigits (digits : List Char) : Nat :=
  digits.foldl (fun n c => n * 10 + (c.toNat - '0'.toNat)) 0

/-- Reads decimal digits, if there are not too many of them. -/
def readDigits? (digits : List Char) : Option Nat :=
  if maxDigits < digits.length then none else some (natOfDigits digits)

/-- A digit at the end counts once, and what stands before it ten times. -/
theorem natOfDigits_concat (digits : List Char) (c : Char) :
    natOfDigits (digits ++ [c]) = natOfDigits digits * 10 + (c.toNat - '0'.toNat) := by
  simp [natOfDigits]

end ScriptBindings.Text

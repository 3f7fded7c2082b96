import ScriptBindings.Text.Decimal

/-!
# Binary floating point numbers

The numbers of the 64-bit binary format as exact values: a whole number of at most 53 bits times a
power of two, together with the two infinities and the value that is no number. All arithmetic is on
whole numbers, where a shift is a product or a quotient with a power of two.

* `ofDecimal` is the nearest such number to a decimal number, the even one of two;
* `toInt?` is the whole number that one is equal to.
-/

namespace ScriptBindings

/-- A number of the 64-bit binary format. -/
inductive Binary64 where
  /-- The value that is no number. -/
  | nan
  | infinity (negative : Bool)
  /-- The number `mantissa * 2 ^ exponent`, or its negative. -/
  | finite (negative : Bool) (mantissa : Nat) (exponent : Int)
  deriving DecidableEq, Repr

namespace Binary64

/-- Mantissas stay below this bound. -/
def mantissaBound : Nat := 1 <<< 53

/-- The least exponent. Only numbers with this exponent have a mantissa of fewer than 53 bits. -/
def leastExponent : Int := -1074

/-- The greatest exponent. -/
def greatestExponent : Int := 971

/-- Zero, with a sign. -/
def zero (negative : Bool) : Binary64 := finite negative 0 leastExponent

/-- Whether a number is zero. -/
def isZero : Binary64 → Bool
  | finite _ mantissa _ => mantissa == 0
  | _ => false

/-- The whole number that a number is equal to. -/
def toInt? : Binary64 → Option Int
  | finite negative mantissa exponent =>
    if mantissa % (1 <<< (-exponent).toNat) = 0 then
      let size : Int := (mantissa <<< exponent.toNat >>> (-exponent).toNat : Nat)
      some (if negative then -size else size)
    else none
  | _ => none

/-- Whether a number is below a natural number. -/
def isBelow (x : Binary64) (n : Nat) : Bool :=
  match x with
  | nan => false
  | infinity negative => negative
  | finite negative mantissa exponent =>
    if negative then mantissa + n != 0
    else mantissa <<< exponent.toNat < n <<< (-exponent).toNat

/-- Whether a number is above a natural number. -/
def isAbove (x : Binary64) (n : Nat) : Bool :=
  match x with
  | nan => false
  | infinity negative => !negative
  | finite negative mantissa exponent =>
    !negative && n <<< (-exponent).toNat < mantissa <<< exponent.toNat

/-- A number without what stands behind its point. -/
def wholePart? : Binary64 → Option Int
  | finite negative mantissa exponent =>
    let size : Int := (mantissa <<< exponent.toNat >>> (-exponent).toNat : Nat)
    some (if negative then -size else size)
  | _ => none

/-! ## Rounding -/

/-- The whole number nearest to a fraction, the even one of two. -/
def roundToEven (numerator denominator : Nat) : Nat :=
  let q := numerator / denominator
  let r := numerator % denominator
  if 2 * r < denominator then q
  else if denominator < 2 * r then q + 1
  else q + q % 2

/-- A fraction divided by a power of two. -/
def scaleDown (numerator denominator : Nat) (power : Int) : Nat × Nat :=
  (numerator <<< (-power).toNat, denominator <<< power.toNat)

/-- The exponent that a positive fraction is rounded with: the one that leaves 53 bits in front of
the point, but none below the least. -/
def exponentFor (numerator denominator : Nat) : Int :=
  -- the logarithms tell the number of bits but for one
  let guess : Int := (numerator.log2 : Int) - denominator.log2 - 52
  let scaled := scaleDown numerator denominator guess
  let exact := if scaled.1 < scaled.2 <<< 52 then guess - 1 else guess
  max exact leastExponent

/-- The number nearest to a fraction. -/
def ofFraction (negative : Bool) (numerator denominator : Nat) : Binary64 :=
  if numerator = 0 then zero negative
  else
    let exponent := exponentFor numerator denominator
    let scaled := scaleDown numerator denominator exponent
    let mantissa := roundToEven scaled.1 scaled.2
    -- rounding up may take one bit more
    let result : Nat × Int :=
      if mantissa = mantissaBound then (1 <<< 52, exponent + 1) else (mantissa, exponent)
    if greatestExponent < result.2 then infinity negative
    else finite negative result.1 result.2

/-- The number nearest to `digits * 10 ^ power`. Numbers that are out of range by far are told by
the place of their first digit, so that no great powers are formed. -/
def ofDecimal (negative : Bool) (digits : List Char) (power : Int) : Binary64 :=
  let significant := digits.dropWhile (· = '0')
  let place : Int := significant.length + power
  if significant = [] ∨ place < -400 then zero negative
  else if 400 < place then infinity negative
  else
    let n := Text.natOfDigits significant
    ofFraction negative (n * Nat.pow 10 power.toNat) (Nat.pow 10 (-power).toNat)

/-- One half and one tenth, and a whole number that has to be rounded. -/
example : ofDecimal false ['5'] (-1) = finite false (1 <<< 52) (-53) ∧
    (ofDecimal true "9007199254740993".toList 0).toInt? = some (-9007199254740992) := by
  decide +kernel

end Binary64

end ScriptBindings

import ScriptBindings.Binary64

/-!
# The shortest decimal text of a binary number

A number is written with as few decimal digits as tell it from all others of its format, and with
those that come nearest to it. `text` writes them out: positionally where the point stands among the
first sixteen digits or not far in front of them, and with an exponent elsewhere.
-/

namespace ScriptBindings.Binary64

/-- The decimal number `digits * 10 ^ power`. -/
structure Decimal where
  digits : Nat
  power : Int
  deriving DecidableEq, Repr

/-- The fractions, in quarters of the last place of the mantissa, between which all numbers round to
`mantissa * 2 ^ exponent`. Below a power of two the numbers lie closer together. -/
def quarterBounds (mantissa : Nat) (exponent : Int) : Nat × Nat :=
  let narrow := mantissa = 1 <<< 52 ∧ leastExponent < exponent
  (if narrow then 4 * mantissa - 1 else 4 * mantissa - 2, 4 * mantissa + 2)

/-- Both sides of a comparison of a decimal number with `quarters * 2 ^ (exponent - 2)`, brought to
a common denominator. -/
def sides (d : Decimal) (quarters : Nat) (exponent : Int) : Nat × Nat :=
  let e := exponent - 2
  (d.digits * Nat.pow 10 d.power.toNat <<< (-e).toNat,
   quarters * Nat.pow 10 (-d.power).toNat <<< e.toNat)

/-- Whether a decimal number rounds to `mantissa * 2 ^ exponent`. The bounds themselves do so if the
mantissa is even. -/
def readsBack (mantissa : Nat) (exponent : Int) (d : Decimal) : Bool :=
  let bounds := quarterBounds mantissa exponent
  let low := sides d bounds.1 exponent
  let high := sides d bounds.2 exponent
  if mantissa % 2 = 0 then low.2 ≤ low.1 && high.1 ≤ high.2 else low.2 < low.1 && high.1 < high.2

/-- The digits that stand in front of the point of `mantissa * 2 ^ exponent * 10 ^ shift`. -/
def wholeAt (mantissa : Nat) (exponent shift : Int) : Nat :=
  mantissa * Nat.pow 10 shift.toNat <<< exponent.toNat /
    (Nat.pow 10 (-shift).toNat <<< (-exponent).toNat)

/-- The number of places in front of the point of a positive number; less than zero where zeros
follow the point. -/
def places (mantissa : Nat) (exponent : Int) : Int :=
  -- the least positive number has its first digit in the 324th place behind the point
  ((Nat.toDigits 10 (wholeAt mantissa exponent 400)).length : Int) - 400

/-- Of two neighbouring decimal numbers around `mantissa * 2 ^ exponent` the nearer one; the even
one if they are equally near. -/
def nearer (mantissa : Nat) (exponent : Int) (d : Decimal) : Decimal :=
  let middle := sides ⟨2 * d.digits + 1, d.power⟩ (8 * mantissa) exponent
  let up : Decimal := ⟨d.digits + 1, d.power⟩
  if middle.1 < middle.2 then up
  else if middle.2 < middle.1 then d
  else if d.digits % 2 = 0 then d else up

/-- The decimal number of `count` digits that stands for `mantissa * 2 ^ exponent`, if there is
one. -/
def ofLength? (mantissa : Nat) (exponent : Int) (count : Nat) : Option Decimal :=
  let power := places mantissa exponent - count
  let down : Decimal := ⟨wholeAt mantissa exponent (-power), power⟩
  let up : Decimal := ⟨down.digits + 1, power⟩
  match readsBack mantissa exponent down, readsBack mantissa exponent up with
  | true, true => some (nearer mantissa exponent down)
  | true, false => some down
  | false, true => some up
  | false, false => none

/-- The shortest decimal number that stands for `mantissa * 2 ^ exponent`. Seventeen digits are
always enough. -/
def shortest (mantissa : Nat) (exponent : Int) : Decimal :=
  ((List.range 17).findSome? fun i => ofLength? mantissa exponent (i + 1)).getD
    ⟨wholeAt mantissa exponent (17 - places mantissa exponent), places mantissa exponent - 17⟩

/-- The digits of a decimal number without zeros at the end, and the place of the point counted from
their front. -/
def Decimal.layout (d : Decimal) : List Char × Int :=
  let digits := Nat.toDigits 10 d.digits
  let kept := (digits.reverse.dropWhile (· = '0')).reverse
  (kept, digits.length + d.power)

/-- An exponent, with its sign and at least two digits. -/
def exponentText (n : Int) : List Char :=
  let digits := Nat.toDigits 10 n.natAbs
  (if n < 0 then '-' else '+') :: (if digits.length < 2 then '0' :: digits else digits)

/-- Writes digits with the point at a place counted from their front. -/
def pointed (digits : List Char) (point : Int) : List Char :=
  if point ≤ -4 ∨ 16 < point then
    let tail := digits.drop 1
    digits.take 1 ++ (if tail = [] then [] else '.' :: tail) ++ 'e' :: exponentText (point - 1)
  else if point ≤ 0 then "0.".toList ++ List.replicate (-point).toNat '0' ++ digits
  else
    let whole := digits.take point.toNat
    let tail := digits.drop point.toNat
    whole ++ List.replicate (point.toNat - whole.length) '0' ++ '.' ::
      (if tail = [] then ['0'] else tail)

/-- The text of a number. -/
def text (x : Binary64) : String :=
  match x with
  | nan => "nan"
  | infinity negative => if negative then "-inf" else "inf"
  | finite negative mantissa exponent =>
    let size :=
      if mantissa = 0 then "0.0".toList
      else
        let d := (shortest mantissa exponent).layout
        pointed d.1 d.2
    String.ofList (if negative then '-' :: size else size)

/-- Few digits where few are enough, and an exponent for great and for small numbers. -/
example : (ofDecimal false "150".toList (-2)).text = "1.5" ∧
    (ofDecimal true ['1'] 16).text = "-1e+16" ∧ (ofDecimal false ['5'] (-324)).text = "5e-324" := by
  decide +kernel

end ScriptBindings.Binary64

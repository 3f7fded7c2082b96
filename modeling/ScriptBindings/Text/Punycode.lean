import ScriptBindings.Text.Utf8

/-!
# Punycode

Text in ASCII characters alone: first the ASCII characters of the text, then the places of all
others. These are taken in the order of their code points; each is a number that counts the places
passed since the one before it, and the size of a number's digits follows the numbers so far.
-/

namespace ScriptBindings.Text.Punycode

/-! ## Numbers -/

/-- The digit of a number below 36. -/
def digit (n : Nat) : Char :=
  Char.ofNat (n + if n < 26 then 0x61 else 0x16)

/-- The least value of a digit that is not the last one, `k` being 36 times its place. -/
def threshold (k bias : Nat) : Nat :=
  min 26 (max 1 (k - bias))

theorem threshold_bounds (k bias : Nat) : 1 ≤ threshold k bias ∧ threshold k bias ≤ 26 := by
  simp only [threshold]
  omega

/-- The digits of a number, the lowest first. -/
def digits (bias k n : Nat) : List Char :=
  let t := threshold k bias
  if n < t then [digit n]
  else digit (t + (n - t) % (36 - t)) :: digits bias (k + 36) ((n - t) / (36 - t))
termination_by n
decreasing_by
  have := threshold_bounds k bias
  have := Nat.div_le_self (n - threshold k bias) (36 - threshold k bias)
  omega

/-- Divides a number down to 455 and adds 36 for each time. -/
def scale (sum n : Nat) : Nat :=
  if 455 < n then scale (sum + 36) (n / 35) else sum + 36 * n / (n + 38)
termination_by n

/-- The bias after a number, given how many characters there are up to it. -/
def adapt (isFirst : Bool) (count n : Nat) : Nat :=
  let n := if isFirst then n / 700 else n / 2
  scale 0 (n + n / count)

/-! ## Places -/

/-- How far the writing has come: what is written, how many places were passed since, the bias, and
how many characters of the text have been dealt with. -/
structure Progress where
  written : List Char
  passed : Nat
  bias : Nat
  count : Nat

/-- Writes the number of places passed. `base` is how many ASCII characters there are. -/
def Progress.write (base : Nat) (p : Progress) : Progress where
  written := p.written ++ digits p.bias 36 p.passed
  passed := 0
  bias := adapt (p.count == base) (p.count + 1) p.passed
  count := p.count + 1

/-- Goes past one character of the text while the places of `target` are sought. -/
def Progress.pass (base target : Nat) (p : Progress) (c : Char) : Progress :=
  if c.toNat < target then { p with passed := p.passed + 1 }
  else if c.toNat = target then p.write base
  else p

/-- Writes the places of code points in order, the last one before them being below `next`. -/
def writePlaces (text : List Char) (base : Nat) : (next : Nat) → Progress → List Nat → List Char
  | _, p, [] => p.written
  | next, p, n :: ns =>
    let reached := { p with passed := p.passed + (n - next) * (p.count + 1) }
    let after := text.foldl (Progress.pass base n) reached
    writePlaces text base (n + 1) { after with passed := after.passed + 1 } ns

/-! ## Texts -/

/-- Whether a character stands for itself. -/
def isBasic (c : Char) : Bool :=
  c.toNat < 0x80

/-- The code points of the other characters in order, each once. -/
def otherPoints (text : List Char) : List Nat :=
  (((text.filter (!isBasic ·)).map Char.toNat).eraseDups).mergeSort

/-- A text in ASCII characters. A hyphen separates the two parts, also where the second is empty. -/
def encode (text : List Char) : List Char :=
  let basic := text.filter isBasic
  let separator := if basic.isEmpty then [] else ['-']
  basic ++ separator
    ++ writePlaces text basic.length 0x80 ⟨[], 0, 72, basic.length⟩ (otherPoints text)

example : encode "b\u00FCcher".toList = "bcher-kva".toList := by decide +kernel

end ScriptBindings.Text.Punycode

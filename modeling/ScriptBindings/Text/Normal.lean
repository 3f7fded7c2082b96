import ScriptBindings.Text.Normal.CombiningClass
import ScriptBindings.Text.Normal.Composition
import ScriptBindings.Text.Normal.Decomposition

/-!
# Normal form

The normal form in which variants of a character are the same and marks are put together with the
characters before them: every character is decomposed, marks are put in the order of their classes,
and what can be composed is composed again.
-/

namespace ScriptBindings.Text.Normal

/-! ## Decomposition -/

/-- The parts of a Hangul syllable, if the character is one. -/
def hangulParts? (c : Char) : Option (List Char) :=
  let n := c.toNat - 0xAC00
  if c.toNat < 0xAC00 ∨ 0xD7A3 < c.toNat then none
  else
    let tail := if n % 28 = 0 then [] else [Char.ofNat (0x11A7 + n % 28)]
    some (Char.ofNat (0x1100 + n / 588) :: Char.ofNat (0x1161 + n / 28 % 21) :: tail)

/-- What a character is made of. -/
def decompose (c : Char) : List Char :=
  (hangulParts? c <|> replacement? decompositions c).getD [c]

/-! ## Order of marks -/

/-- Puts a character in front of others; if it is a mark, behind the marks there whose class is
lower. -/
def insertMark (c : Char) : List Char → List Char
  | [] => [c]
  | d :: ds =>
    if combiningClass d ≠ 0 ∧ combiningClass d < combiningClass c then d :: insertMark c ds
    else c :: d :: ds

/-- Puts neighbouring marks in the order of their classes. -/
def sortMarks : List Char → List Char
  | [] => []
  | c :: cs => insertMark c (sortMarks cs)

/-! ## Composition -/

/-- The Hangul syllable of a lead and a vowel, or of a syllable without a tail and a tail. -/
def hangulComposed? (c d : Char) : Option Char :=
  let m := c.toNat
  let n := d.toNat
  if 0x1100 ≤ m ∧ m ≤ 0x1112 ∧ 0x1161 ≤ n ∧ n ≤ 0x1175 then
    some (Char.ofNat (0xAC00 + ((m - 0x1100) * 21 + (n - 0x1161)) * 28))
  else if 0xAC00 ≤ m ∧ m ≤ 0xD7A3 ∧ (m - 0xAC00) % 28 = 0 ∧ 0x11A8 ≤ n ∧ n ≤ 0x11C2 then
    some (Char.ofNat (m + (n - 0x11A7)))
  else none

/-- What becomes of two characters that are put together, if they can be. -/
def composite? (c d : Char) : Option Char :=
  hangulComposed? c d <|> composed? c d

/-- Whether a character is kept from the one before `between`, the marks that stand there, the last
one first. -/
def isBlocked (between : List Char) (c : Char) : Bool :=
  between.head?.any fun mark => combiningClass c ≤ combiningClass mark

/-- Composes a character with what follows; `between` are the marks since, the last one first. -/
def composeFrom (starter : Char) (between : List Char) : List Char → List Char
  | [] => starter :: between.reverse
  | c :: cs =>
    match if isBlocked between c then none else composite? starter c with
    | some d => composeFrom d between cs
    | none =>
      if combiningClass c = 0 then starter :: between.reverse ++ composeFrom c [] cs
      else composeFrom starter (c :: between) cs

/-- Composes every character with the marks behind it. -/
def compose : List Char → List Char
  | [] => []
  | c :: cs => if combiningClass c = 0 then composeFrom c [] cs else c :: compose cs

/-- The normal form of a text. -/
def form (s : List Char) : List Char :=
  compose (sortMarks (s.flatMap decompose))

end ScriptBindings.Text.Normal

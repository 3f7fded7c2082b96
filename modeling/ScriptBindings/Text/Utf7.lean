import ScriptBindings.Text.Units

/-!
# UTF-7

Text in ASCII characters alone. A stretch of characters that may not stand for themselves is written
as the bits of its 16-bit units, six at a time, between a plus sign and whatever ends the stretch.
-/

namespace ScriptBindings.Text.Utf7

/-- Whether a character stands for itself. -/
def isDirect (c : Char) : Bool :=
  (' ' ≤ c && c ≤ '\x7d' && c != '+' && c != '\\') || c == '\t' || c == '\n' || c == '\r'

/-- The digits of six bits. -/
def sixBitDigits : List Char :=
  "ABCDEFGHIJKLMNOPQRSTUVWXYZabcdefghijklmnopqrstuvwxyz0123456789+\x2f".toList

/-- The bits of a number, the highest of `width` first. -/
def bits : (width : Nat) → Nat → List Bool
  | 0, _ => []
  | width + 1, n => bits width (n / 2) ++ [n % 2 == 1]

/-- Writes bits, six in each digit; zeros fill up the last one. -/
def digitsOf : List Bool → List Char
  | b₁ :: b₂ :: b₃ :: b₄ :: b₅ :: b₆ :: rest =>
    digit [b₁, b₂, b₃, b₄, b₅, b₆] :: digitsOf rest
  | [] => []
  | last => [digit (last ++ List.replicate (6 - last.length) false)]
where
  /-- The digit of six bits. -/
  digit (six : List Bool) : Char :=
    sixBitDigits.getD (six.foldl (fun n b => 2 * n + b.toNat) 0) 'A'

/-- What ends a stretch before the text that follows it: a hyphen, unless the next character cannot
be taken for a part of the stretch. -/
def closing : List Char → List Char
  | [] => ['-']
  | c :: _ => if c ∈ sixBitDigits ∨ c = '-' then ['-'] else []

/-- A text in ASCII characters. -/
def encode : List Char → List Char
  | [] => []
  | c :: cs =>
    if isDirect c then c :: encode cs
    else if c = '+' then '+' :: '-' :: encode cs
    else
      let stretch := c :: cs.takeWhile (!isDirect ·)
      let rest := cs.dropWhile (!isDirect ·)
      '+' :: digitsOf ((stretch.flatMap units16).flatMap (bits 16)) ++ closing rest ++ encode rest
termination_by s => s.length
decreasing_by
  · simp
  · simp
  · have := (List.dropWhile_sublist (!isDirect ·) (l := cs)).length_le
    simp only [List.length_cons]
    omega

example : encode "a+\u00e9\u4e2db-".toList = "a+-+AOlOLQ-b-".toList := by decide +kernel

end ScriptBindings.Text.Utf7

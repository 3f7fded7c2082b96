/-!
# UTF-8

Reading bytes as UTF-8, one byte at a time. Bytes that are no UTF-8 do not stop the reading: every
longest stretch that could have begun a character, or else a single byte, counts as one fault
(`none`), and the byte that broke the stretch is read afresh.

* `decode` gives the characters and faults of a list of bytes;
* `decodeStrict?` accepts only bytes without a fault;
* `decodeReplacing` shows each fault as U+FFFD.
-/

namespace ScriptBindings

/-- A string of bytes. -/
abbrev Bytes := List UInt8

namespace Text.Utf8

/-- A character of which some bytes have been read: the bits so far, how many bytes are still to
come, and the least and greatest value that the next of them may have. -/
structure Pending where
  bits : Nat
  missing : Nat
  low : Nat
  high : Nat

/-- What the reader does with a byte: the characters and faults it reports, and the character that
is then unfinished, if any. -/
abbrev Step := List (Option Char) × Option Pending

/-- Reads a byte between two characters. The ranges for the second byte leave out overlong forms,
surrogates, and code points above U+10FFFF. -/
def lead (b : Nat) : Step :=
  if b < 0x80 then ([some (Char.ofNat b)], none)
  -- what continues a character cannot begin one, and C0 and C1 only begin overlong forms
  else if b < 0xC2 then ([none], none)
  else if b < 0xE0 then ([], some ⟨b - 0xC0, 1, 0x80, 0xBF⟩)
  else if b = 0xE0 then ([], some ⟨0, 2, 0xA0, 0xBF⟩)
  else if b = 0xED then ([], some ⟨0xD, 2, 0x80, 0x9F⟩)
  else if b < 0xF0 then ([], some ⟨b - 0xE0, 2, 0x80, 0xBF⟩)
  else if b = 0xF0 then ([], some ⟨0, 3, 0x90, 0xBF⟩)
  else if b < 0xF4 then ([], some ⟨b - 0xF0, 3, 0x80, 0xBF⟩)
  else if b = 0xF4 then ([], some ⟨4, 3, 0x80, 0x8F⟩)
  else ([none], none)

/-- Reads a byte, possibly within a character. -/
def step : Option Pending → Nat → Step
  | none, b => lead b
  | some p, b =>
    if p.low ≤ b ∧ b ≤ p.high then
      let bits := p.bits * 64 + (b - 0x80)
      if p.missing = 1 then ([some (Char.ofNat bits)], none)
      else ([], some ⟨bits, p.missing - 1, 0x80, 0xBF⟩)
    else
      -- the byte may well begin the next character
      let next := lead b
      (none :: next.1, next.2)

/-- Reads the bytes that follow an unfinished character. One that is cut off by the end is a
fault. -/
def decodeFrom : Option Pending → Bytes → List (Option Char)
  | none, [] => []
  | some _, [] => [none]
  | p, b :: bs =>
    let next := step p b.toNat
    next.1 ++ decodeFrom next.2 bs

/-- The characters (`some`) and faults (`none`) of a list of bytes. -/
def decode (bs : Bytes) : List (Option Char) :=
  decodeFrom none bs

/-- The text that the bytes spell, if they are UTF-8 throughout. -/
def decodeStrict? (bs : Bytes) : Option (List Char) :=
  (decode bs).mapM id

/-- The text that the bytes spell, with a replacement character for every fault. -/
def decodeReplacing (bs : Bytes) : List Char :=
  (decode bs).map (·.getD '\uFFFD')

/-- A stretch cut short by the end is one fault, and a byte that cannot go on is read afresh. -/
example : decode [0xE2, 0x82] = [none] ∧ decode [0xE2, 0x41] = [none, some 'A'] := by decide

end Text.Utf8

end ScriptBindings

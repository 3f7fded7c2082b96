import ScriptBindings.Text.Utf8

/-!
# Units of 16 and 32 bits

The units that a text has in the encodings of 16 and 32 bits, and their bytes with the low one
first.
-/

namespace ScriptBindings.Text

/-- The two bytes of a 16-bit unit. -/
def unit16 (n : Nat) : Bytes :=
  [UInt8.ofNat (n % 256), UInt8.ofNat (n / 256 % 256)]

/-- The four bytes of a 32-bit unit. -/
def unit32 (n : Nat) : Bytes :=
  unit16 (n % 65536) ++ unit16 (n / 65536)

/-- The 16-bit units of a character: one, or a pair of surrogates. -/
def units16 (c : Char) : List Nat :=
  let n := c.toNat
  if n < 0x10000 then [n]
  else [0xD800 + (n - 0x10000) / 0x400, 0xDC00 + (n - 0x10000) % 0x400]

end ScriptBindings.Text

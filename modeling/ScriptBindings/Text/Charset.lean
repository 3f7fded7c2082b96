/-!
# Character sets

Character sets of at most 256 characters, each of which has one byte. The sets themselves are in the
modules below this one, by family.
-/

namespace ScriptBindings.Text

/-- A character set: its name and its other names, and the characters of all bytes in order. Where a
byte has no character, U+FFFD stands. -/
structure Charset where
  name : String
  aliases : List String
  chars : String
  deriving DecidableEq, Repr

namespace Charset

/-- The characters of a set that begins with the ones of ASCII. -/
def ofHigh (high : String) : String :=
  String.ofList ((List.range 0x80).map Char.ofNat) ++ high

/-- The byte of a character; of several ones the last. -/
def byte? (chars : List Char) (c : Char) : Option UInt8 :=
  if c ≠ '\uFFFD' ∧ c ∈ chars then some (UInt8.ofNat (chars.length - 1 - chars.reverse.idxOf c))
  else none

end Charset

end ScriptBindings.Text

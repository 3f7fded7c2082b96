/-!
# Symbol ids

The script runtime knows a name by the CRC-32 of its 8-bit spelling: the reflected form with
polynomial 0xEDB88320, all ones at the start, and a final complement.
-/

namespace ScriptBindings.Name

/-- The byte of a character in the 8-bit spelling, a question mark for those that have none. -/
def symbolByte (c : Char) : BitVec 8 :=
  if c.toNat < 0x100 then BitVec.ofNat 8 c.toNat else BitVec.ofNat 8 '?'.toNat

/-- Shifts one bit out of the register. -/
def crcBit (r : BitVec 32) : BitVec 32 :=
  if r.getLsbD 0 then (r >>> 1) ^^^ 0xEDB88320#32 else r >>> 1

/-- Takes a byte into the register. -/
def crcByte (r : BitVec 32) (b : BitVec 8) : BitVec 32 :=
  Nat.repeat crcBit 8 (r ^^^ b.zeroExtend 32)

/-- The CRC-32 of a list of bytes. -/
def crc32 (bs : List (BitVec 8)) : BitVec 32 :=
  ~~~ bs.foldl crcByte (~~~ 0#32)

/-- The id of a symbol. -/
def symbolId (name : List Char) : BitVec 32 :=
  crc32 (name.map symbolByte)

/-- The check value of the CRC-32 in use. -/
example : symbolId "123456789".toList = 0xCBF43926#32 := by decide +kernel

end ScriptBindings.Name

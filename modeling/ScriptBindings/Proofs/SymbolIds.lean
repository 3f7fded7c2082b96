import Mathlib.Logic.Function.Iterate
import ScriptBindings.Name.SymbolId

/-!
# Symbol ids of near names

A bit that is shifted out of the register of the checksum is not lost: the polynomial has the
topmost bit, so that bit of the register tells what came out. Registers are shifted alike whether
they are added before or afterwards, and a register whose low bits are clear only moves. So the
register that takes in up to four bytes one by one is the register that takes in all of them at
once, each in its own place, and is shifted as often. Those places do not overlap, and whatever
follows keeps different registers apart.

## Key results

- `crcBit_xor`, `crcBit_injective`: shifts add up and lose nothing
- `iterate_crcBit_of_clear`: registers that only move
- `foldl_crcByte_injective`: bytes that are taken in keep registers apart
- `foldl_crcByte_packed`: four bytes are taken in one by one or all at once
- `map_symbolByte_eq_iff`: the texts with the same bytes
- `symbolId_window_iff`: names that differ within four characters have different ids
-/

namespace ScriptBindings.Name

variable {r s : BitVec 32} {bs cs : List (BitVec 8)}

/-! ## One bit -/

/-- A shift adds the polynomial if the lowest bit is set. -/
theorem crcBit_eq (r : BitVec 32) :
    crcBit r = (r >>> 1) ^^^ if r.getLsbD 0 then 0xEDB88320#32 else 0#32 := by
  unfold crcBit
  split
  · rfl
  · rw [BitVec.xor_zero]

/-- Registers may be added before or behind a shift. -/
theorem crcBit_xor (r s : BitVec 32) : crcBit (r ^^^ s) = crcBit r ^^^ crcBit s := by
  have hlow : (if (r ^^^ s).getLsbD 0 then 0xEDB88320#32 else 0#32) =
      (if r.getLsbD 0 then 0xEDB88320#32 else 0#32) ^^^
        if s.getLsbD 0 then 0xEDB88320#32 else 0#32 := by
    rw [BitVec.getLsbD_xor]
    -- the polynomials cancel if both are added
    cases r.getLsbD 0 <;> cases s.getLsbD 0 <;> rfl
  rw [crcBit_eq, crcBit_eq, crcBit_eq, BitVec.ushiftRight_xor_distrib, hlow]
  ac_rfl

/-- The bit that was shifted out shows in the topmost bit. -/
theorem getLsbD_crcBit (r : BitVec 32) : (crcBit r).getLsbD 31 = r.getLsbD 0 := by
  rw [crcBit_eq, BitVec.getLsbD_xor]
  -- the topmost bit of a shifted register is clear, and that of the polynomial is set
  cases r.getLsbD 0 <;> simp

/-- A register that is empty behind a shift was empty before. -/
theorem eq_zero_of_crcBit (h : crcBit r = 0#32) : r = 0#32 := by
  have hlow : r.getLsbD 0 = false := by
    rw [← getLsbD_crcBit, h]
    rfl
  have hshift : r >>> 1 = 0#32 := by
    rw [crcBit_eq, hlow] at h
    simpa using h
  -- the lowest bit is the one that came out, and all others are still there
  apply BitVec.eq_of_getLsbD_eq
  intro i _
  cases i with
  | zero => rw [hlow]; rfl
  | succ i =>
    have hbit := congrArg (BitVec.getLsbD · i) hshift
    simpa [Nat.add_comm] using hbit

/-- A shift loses nothing. -/
theorem crcBit_injective : Function.Injective crcBit := by
  intro r s h
  -- shifts add up, so it is enough that no difference is lost
  have hdifference : r ^^^ s = 0#32 := by
    apply eq_zero_of_crcBit
    rw [crcBit_xor, h, BitVec.xor_self]
  exact BitVec.xor_eq_zero_iff.mp hdifference

/-! ## Several bits -/

/-- A byte is added to the register, which is shifted eight times. -/
theorem crcByte_eq (r : BitVec 32) (b : BitVec 8) :
    crcByte r b = crcBit^[8] (r ^^^ b.zeroExtend 32) := rfl

/-- Registers may be added before or behind several shifts. -/
theorem iterate_crcBit_xor (n : Nat) (r s : BitVec 32) :
    crcBit^[n] (r ^^^ s) = crcBit^[n] r ^^^ crcBit^[n] s := by
  -- one shift commutes with adding, and so does any number of them
  have hbit : Function.Semiconj₂ crcBit (· ^^^ ·) (· ^^^ ·) := crcBit_xor
  exact hbit.iterate n r s

/-- A register with clear low bits only moves when these are shifted out. -/
theorem iterate_crcBit_of_clear {n : Nat} (h : ∀ i < n, r.getLsbD i = false) :
    crcBit^[n] r = r >>> n := by
  induction n with
  | zero => rfl
  | succ n ih =>
    -- the next bit that comes out is clear, and the polynomial is not added
    have hlow : (r >>> n).getLsbD 0 = false := by simpa using h n (Nat.lt_succ_self n)
    rw [Function.iterate_succ_apply', ih fun i hi => h i (Nat.lt_succ_of_lt hi), crcBit_eq, hlow]
    simp [BitVec.shiftRight_add]

/-- The same byte keeps registers apart. -/
theorem crcByte_injective (b : BitVec 8) : Function.Injective (crcByte · b) := by
  intro r s h
  exact (BitVec.xor_left_inj _).mp (crcBit_injective.iterate 8 h)

/-- The same bytes keep registers apart. -/
theorem foldl_crcByte_injective (bs : List (BitVec 8)) :
    Function.Injective (bs.foldl crcByte ·) := by
  induction bs with
  | nil => exact fun _ _ h => h
  | cons b bs ih => exact fun _ _ h => crcByte_injective b (ih h)

/-! ## Several bytes at once -/

/-- Bytes in a register, each in its own place, with the first byte in the lowest one. -/
def packed : List (BitVec 8) → BitVec 32
  | [] => 0#32
  | b :: bs => b.zeroExtend 32 ^^^ packed bs <<< 8

/-- The lowest place has the first byte. -/
theorem getLsbD_packed_first (b : BitVec 8) (bs : List (BitVec 8)) {i : Nat} (hi : i < 8) :
    (packed (b :: bs)).getLsbD i = b.getLsbD i := by
  have hin : i < 32 := by omega
  simp [packed, hi, hin]

/-- The other places have the other bytes. -/
theorem getLsbD_packed_rest (b : BitVec 8) (bs : List (BitVec 8)) {i : Nat} (hi : i < 24) :
    (packed (b :: bs)).getLsbD (i + 8) = (packed bs).getLsbD i := by
  have hbyte : (b.zeroExtend 32).getLsbD (i + 8) = false := by
    rw [BitVec.getLsbD_setWidth, BitVec.getLsbD_of_ge b (i + 8) (by omega), Bool.and_false]
  have hmoved : (packed bs <<< 8).getLsbD (i + 8) = (packed bs).getLsbD i := by
    have hin : i + 8 < 32 := by omega
    have hout : ¬ i + 8 < 8 := by omega
    simp only [BitVec.getLsbD_shiftLeft, hin, hout, Nat.add_sub_cancel, decide_true, decide_false,
      Bool.not_false, Bool.true_and]
  rw [packed, BitVec.getLsbD_xor, hbyte, hmoved, Bool.false_xor]

/-- The places behind the bytes are empty. -/
theorem getLsbD_packed_behind {i : Nat} (h : 8 * bs.length ≤ i) :
    (packed bs).getLsbD i = false := by
  -- byte by byte, each of which moves the others eight places further
  induction bs generalizing i with
  | nil => simp [packed]
  | cons b bs ih =>
    rw [List.length_cons] at h
    obtain ⟨j, rfl⟩ : ∃ j, i = j + 8 := ⟨i - 8, by omega⟩
    -- a place in the register has what the other bytes have before they are moved
    by_cases hin : j < 24
    · rw [getLsbD_packed_rest b bs hin]
      exact ih (by omega)
    · exact BitVec.getLsbD_of_ge _ _ (by omega)

/-- Up to four bytes can be read back from their places. -/
theorem packed_inj (hlength : bs.length = cs.length) (hshort : bs.length ≤ 4) :
    packed bs = packed cs ↔ bs = cs := by
  refine ⟨fun h => ?_, congrArg packed⟩
  -- the first byte is in the lowest place, and the others in the same order behind it
  induction bs generalizing cs with
  | nil => exact (List.length_eq_zero_iff.mp hlength.symm).symm
  | cons b bs ih =>
    obtain ⟨c, cs, rfl⟩ := List.exists_cons_of_length_eq_add_one hlength.symm
    simp only [List.length_cons] at hlength hshort
    have hfirst : b = c := by
      apply BitVec.eq_of_getLsbD_eq
      intro i hi
      rw [← getLsbD_packed_first b bs hi, h, getLsbD_packed_first c cs hi]
    have hrest : packed bs = packed cs := by
      -- what does not fit into the higher places is empty, as at most three bytes are left
      apply BitVec.eq_of_getLsbD_eq
      intro i _
      by_cases hi : i < 24
      · rw [← getLsbD_packed_rest b bs hi, h, getLsbD_packed_rest c cs hi]
      · rw [getLsbD_packed_behind (by omega), getLsbD_packed_behind (by omega)]
    rw [hfirst, ih (by omega) (by omega) hrest]

/-- Up to three bytes come back from the next places when the lowest one is shifted out. -/
theorem iterate_crcBit_packed (hshort : bs.length ≤ 3) :
    crcBit^[8] (packed bs <<< 8) = packed bs := by
  have hclear : ∀ i < 8, (packed bs <<< 8).getLsbD i = false := by
    intro i hi
    simp [hi]
  rw [iterate_crcBit_of_clear hclear]
  apply BitVec.eq_of_getLsbD_eq
  intro i hi
  rw [BitVec.getLsbD_ushiftRight, BitVec.getLsbD_shiftLeft, Nat.add_sub_cancel_left]
  by_cases hin : i < 24
  · -- the bits come back from where the shift had put them
    simp [show 8 + i < 32 by omega, hi]
  · rw [getLsbD_packed_behind (by omega), Bool.and_false]

/-- Up to four bytes may be taken in all at once. -/
theorem foldl_crcByte_packed (hshort : bs.length ≤ 4) (r : BitVec 32) :
    bs.foldl crcByte r = crcBit^[8 * bs.length] (r ^^^ packed bs) := by
  -- the rest is taken in all at once by induction, and the first byte is put before it
  induction bs generalizing r with
  | nil => simp [packed]
  | cons b bs ih =>
    rw [List.length_cons] at hshort
    -- the rest is put behind the first byte, and comes to its place when that is shifted out
    have hstep : crcByte r b ^^^ packed bs = crcBit^[8] (r ^^^ packed (b :: bs)) := by
      rw [packed, ← BitVec.xor_assoc, iterate_crcBit_xor, iterate_crcBit_packed (by omega),
        crcByte_eq]
    rw [List.foldl_cons, ih (by omega), hstep, ← Function.iterate_add_apply, List.length_cons,
      Nat.mul_succ]

/-- Up to four bytes lead a register to different ones, unless they are the same bytes. -/
theorem foldl_crcByte_inj (hlength : bs.length = cs.length) (hshort : bs.length ≤ 4) :
    bs.foldl crcByte r = cs.foldl crcByte r ↔ bs = cs := by
  rw [foldl_crcByte_packed hshort, foldl_crcByte_packed (hlength ▸ hshort), ← hlength,
    (crcBit_injective.iterate _).eq_iff, BitVec.xor_right_inj, packed_inj hlength hshort]

/-- Checksums differ if the bytes differ within four neighbours. -/
theorem crc32_window_iff (hlength : bs.length = cs.length) (hshort : bs.length ≤ 4)
    (before after : List (BitVec 8)) :
    crc32 (before ++ bs ++ after) = crc32 (before ++ cs ++ after) ↔ bs = cs := by
  -- the checksum is the register in the end, turned around, which keeps registers apart
  simp only [crc32, List.foldl_append, BitVec.not_inj]
  rw [(foldl_crcByte_injective after).eq_iff, foldl_crcByte_inj hlength hshort]

/-! ## Names -/

/-- A character as the 8-bit spelling shows it. -/
def eightBit (c : Char) : Char :=
  if 0xFF < c.toNat then '?' else c

/-- The byte of a character is its code point as the 8-bit spelling shows it. -/
theorem toNat_symbolByte (c : Char) : (symbolByte c).toNat = (eightBit c).toNat := by
  unfold symbolByte eightBit
  split
  · -- a code point up to 255 is its own byte, and any other one a question mark
    rename_i hsmall
    rw [if_neg (by omega), BitVec.toNat_ofNat]
    exact Nat.mod_eq_of_lt hsmall
  · rename_i hlarge
    rw [if_pos (by omega)]
    rfl

/-- Texts have the same bytes if and only if the 8-bit spelling shows them alike. -/
theorem map_symbolByte_eq_iff {x y : List Char} :
    x.map symbolByte = y.map symbolByte ↔ x.map eightBit = y.map eightBit := by
  have hcodes : ∀ z : List Char,
      (z.map symbolByte).map BitVec.toNat = (z.map eightBit).map Char.toNat := by
    intro z
    rw [List.map_map, List.map_map]
    exact List.map_congr_left fun c _ => toNat_symbolByte c
  -- characters of eight bits are told apart by their code points, as bytes are
  rw [← List.map_inj_right (f := BitVec.toNat) fun _ _ => BitVec.eq_of_toNat_eq, hcodes, hcodes,
    List.map_inj_right fun _ _ => Char.toNat_inj.mp]

/-- The ids of names that differ within four characters are the same if and only if the 8-bit
    spelling shows these characters alike. All ids have 32 bits. -/
theorem symbolId_window_iff {x y : List Char} (hlength : x.length = y.length)
    (hshort : x.length ≤ 4) (u v : List Char) :
    (symbolId (u ++ x ++ v) = symbolId (u ++ y ++ v) ↔ x.map eightBit = y.map eightBit) ∧
      ∀ name, (symbolId name).toNat < 0x100000000 := by
  refine ⟨?_, fun name => (symbolId name).isLt⟩
  simp only [symbolId, List.map_append]
  rw [crc32_window_iff (by simpa using hlength) (by simpa using hshort), map_symbolByte_eq_iff]

/-- Of three currencies in a name two have no byte of their own. -/
theorem symbolId_window_currencies :
    "In€".toList.length = "In₤".toList.length ∧ "In€".toList.length = "In£".toList.length ∧
      "In€".toList.length ≤ 4 ∧
      symbolId ("Cost".toList ++ "In€".toList ++ "PerDay".toList) =
        symbolId ("Cost".toList ++ "In₤".toList ++ "PerDay".toList) ∧
      symbolId ("Cost".toList ++ "In€".toList ++ "PerDay".toList) ≠
        symbolId ("Cost".toList ++ "In£".toList ++ "PerDay".toList) := by
  have hlength : "In€".toList.length = "In₤".toList.length := by decide
  have hlength' : "In€".toList.length = "In£".toList.length := by decide
  have hshort : "In€".toList.length ≤ 4 := by decide
  have halike : "In€".toList.map eightBit = "In₤".toList.map eightBit := by decide
  have hapart : "In€".toList.map eightBit ≠ "In£".toList.map eightBit := by decide
  refine ⟨hlength, hlength', hshort, ?_, fun h => hapart ?_⟩
  · exact (symbolId_window_iff hlength hshort _ _).1.mpr halike
  · exact (symbolId_window_iff hlength' hshort _ _).1.mp h

end ScriptBindings.Name

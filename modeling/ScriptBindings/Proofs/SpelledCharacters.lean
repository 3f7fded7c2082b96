import ScriptBindings.Proofs.Spellings

/-!
# Characters of script names

The spelling of a host name has underscores and the small spellings of the characters of that name,
so it has no capital letters of ASCII, and no slash or question mark of its own.

## Key results

- `eq_of_mem_lowercase`: a small spelling adds no digits, capital letters or punctuation of ASCII
- `isUppercase_ascii`, `lowercase_ascii`: the case of ASCII characters
- `isDigit_ascii`: the digits of ASCII
- `isUpper_of_mem_lowercase`: a small spelling leaves no capital letters of ASCII
-/

namespace ScriptBindings.Text

/-- The runs of capital letters map to `a` or what comes after it. -/
private theorem le_image_of_mem : ∀ r ∈ lowercaseRuns, 0x61 ≤ r.image := by decide +kernel

/-- The code point of a character that is made from one. -/
private theorem toNat_ofNat {n : Nat} (h : n.isValidChar) : (Char.ofNat n).toNat = n := by
  have hchar : Char.ofNat n = Char.ofNatAux n h := dif_pos h
  rw [hchar]
  rfl

/-- A character that is made from any number has that code point or none. -/
private theorem toNat_ofNat_eq (n : Nat) : (Char.ofNat n).toNat = n ∨ (Char.ofNat n).toNat = 0 := by
  by_cases h : n.isValidChar
  · -- what is no code point becomes the null character
    exact .inl (toNat_ofNat h)
  · have hchar : Char.ofNat n = ⟨0, .inl (by decide)⟩ := dif_neg h
    rw [hchar]
    exact .inr rfl

/-- What stands before `a` in a small spelling is the character that is spelled. -/
theorem eq_of_mem_lowercase {c d : Char} (h : d ∈ lowercase c) (hpos : 0 < d.toNat)
    (hd : d.toNat < 0x61) : d = c := by
  unfold lowercase at h
  split at h
  · -- the only spelling of two characters
    exfalso
    rcases List.mem_pair.mp h with rfl | rfl
    · exact absurd hd (by decide)
    · exact absurd hd (by decide)
  · split at h
    · -- a run of capital letters maps to `a` or higher, and only a null character is below
      rename_i r hr
      exfalso
      have himage := le_image_of_mem r (List.mem_of_find?_eq_some hr)
      obtain rfl := List.mem_singleton.mp h
      rcases toNat_ofNat_eq (r.image + (c.toNat - r.run.first)) with heq | hnone
      · omega
      · -- no character has that code point
        omega
    · -- all other characters are spelled as they are
      exact List.mem_singleton.mp h

/-- The capital letters of ASCII by their code points. -/
theorem isUpper_iff {c : Char} : c.isUpper = true ↔ 0x41 ≤ c.toNat ∧ c.toNat ≤ 0x5A := by
  show decide (c.val ≥ 'A'.val ∧ c.val ≤ 'Z'.val) = true ↔ _
  -- the comparison of characters is that of their code points
  rw [decide_eq_true_iff]
  exact and_congr UInt32.le_iff_toNat_le UInt32.le_iff_toNat_le

/-- The first run of capital letters is that of ASCII. -/
private theorem covers_capitals (c : Char) :
    CharRun.covers ⟨0x41, 0x5A, 1⟩ c.toNat = c.isUpper := by
  rw [Bool.eq_iff_iff, isUpper_iff]
  -- the run has no gaps, so every code point between its ends is in it
  simp [CharRun.covers, Nat.mod_one]

/-- All other runs lie behind ASCII. -/
private theorem le_first_of_uppercase : ∀ r ∈ uppercaseRuns.tail, 0x80 ≤ r.first := by
  decide +kernel

/-- All other runs lie behind ASCII. -/
private theorem le_first_of_lowercase : ∀ r ∈ lowercaseRuns.tail, 0x80 ≤ r.run.first := by
  decide +kernel

/-- The only capital letters in ASCII are those of ASCII. -/
theorem isUppercase_ascii {c : Char} (h : c.toNat < 0x80) : isUppercase c = c.isUpper := by
  have hsplit : uppercaseRuns = ⟨0x41, 0x5A, 1⟩ :: uppercaseRuns.tail := rfl
  -- the first run is the one of ASCII, and no other reaches below 0x80
  have hrest : covered uppercaseRuns.tail c = false :=
    covered_eq_false_of_lt le_first_of_uppercase h
  unfold isUppercase
  rw [hsplit, covered, List.any_cons, covers_capitals, ← covered, hrest, Bool.or_false]

/-- The digits of ASCII by their code points. -/
theorem isDigit_iff {c : Char} : c.isDigit = true ↔ 0x30 ≤ c.toNat ∧ c.toNat ≤ 0x39 := by
  show (decide (c.val ≥ '0'.val) && decide (c.val ≤ '9'.val)) = true ↔ _
  rw [Bool.and_eq_true, decide_eq_true_iff, decide_eq_true_iff]
  exact and_congr UInt32.le_iff_toNat_le UInt32.le_iff_toNat_le

/-- All other digits lie behind ASCII. -/
private theorem le_first_of_digit : ∀ r ∈ digitRuns.tail, 0x80 ≤ r.first := by decide +kernel

/-- The only digits in ASCII are those of ASCII. -/
theorem isDigit_ascii {c : Char} (h : c.toNat < 0x80) : isDigit c = c.isDigit := by
  have hsplit : digitRuns = ⟨0x30, 0x39, 1⟩ :: digitRuns.tail := rfl
  have hrest : covered digitRuns.tail c = false := covered_eq_false_of_lt le_first_of_digit h
  have hfirst : CharRun.covers ⟨0x30, 0x39, 1⟩ c.toNat = c.isDigit := by
    rw [Bool.eq_iff_iff, isDigit_iff]
    simp [CharRun.covers, Nat.mod_one]
  unfold isDigit
  rw [hsplit, covered, List.any_cons, hfirst, ← covered, hrest, Bool.or_false]

/-- The small spelling of an ASCII character. -/
theorem lowercase_ascii {c : Char} (h : c.toNat < 0x80) :
    lowercase c = if c.isUpper then [Char.ofNat (c.toNat + 0x20)] else [c] := by
  have hsplit : lowercaseRuns = ⟨⟨0x41, 0x5A, 1⟩, 0x61⟩ :: lowercaseRuns.tail := rfl
  -- no other run covers a character of ASCII
  have hrest : lowercaseRuns.tail.find? (·.run.covers c.toNat) = none := by
    rw [List.find?_eq_none]
    intro r hr
    simp [CharRun.covers_eq_false_of_lt (Nat.lt_of_lt_of_le h (le_first_of_lowercase r hr))]
  -- the one letter that is spelled with two characters is not in ASCII
  have hne : c ≠ 'İ' := by
    rintro rfl
    exact absurd h (by decide)
  unfold lowercase
  rw [if_neg hne, hsplit, List.find?_cons, covers_capitals, hrest]
  cases hupper : c.isUpper with
  | true =>
    obtain ⟨hfirst, hlast⟩ := isUpper_iff.mp hupper
    -- the distance from `A` is kept
    have hcode : 0x61 + (c.toNat - 0x41) = c.toNat + 0x20 := by omega
    simp only [hcode, if_true]
  | false => rfl

/-- The small spelling of a capital letter of ASCII is 32 characters behind it. -/
theorem toNat_of_mem_lowercase {c d : Char} (hupper : c.isUpper = true) (h : d ∈ lowercase c) :
    d.toNat = c.toNat + 0x20 := by
  obtain ⟨hfirst, hlast⟩ := isUpper_iff.mp hupper
  rw [lowercase_ascii (by omega), if_pos hupper] at h
  obtain rfl := List.mem_singleton.mp h
  exact toNat_ofNat (.inl (by omega))

/-- A capital letter of ASCII stands in no small spelling. -/
theorem isUpper_of_mem_lowercase {c d : Char} (h : d ∈ lowercase c) : d.isUpper = false := by
  by_contra hupper
  obtain ⟨hfirst, hlast⟩ := isUpper_iff.mp (by simpa using hupper)
  -- a capital letter would be spelled as itself, but it is spelled 32 places further on
  obtain rfl : d = c := eq_of_mem_lowercase h (by omega) (by omega)
  have hcode := toNat_of_mem_lowercase (by simpa using hupper) h
  omega

/-- An ASCII character has a small spelling in ASCII. -/
theorem ascii_of_mem_lowercase {c d : Char} (hascii : c.toNat < 0x80) (h : d ∈ lowercase c) :
    d = c ∨ (0x61 ≤ d.toNat ∧ d.toNat ≤ 0x7A) := by
  cases hupper : c.isUpper with
  | true =>
    obtain ⟨hfirst, hlast⟩ := isUpper_iff.mp hupper
    have hcode := toNat_of_mem_lowercase hupper h
    exact .inr ⟨by omega, by omega⟩
  | false =>
    rw [lowercase_ascii hascii, hupper] at h
    exact .inl (List.mem_singleton.mp h)

end ScriptBindings.Text

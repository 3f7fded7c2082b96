import Mathlib.Data.List.Chain
import ScriptBindings.Proofs.SpelledCharacters

/-!
# Script names as host names

What becomes of a script name that is spelled once more. The name of an ASCII text is made of small
letters and underscores, which stay, so the scan can only add an underscore before a digit. After
that a reserved word gets its escape, and a hash is dropped. The scan and the escape add no letters
and a hash has some, so none of these steps can make up for another one, and a name stays as it is
if and only if none of them does anything.

## Key results

- `IsSmall`, `isSmall_of_mem_lowercase`: the letters of the name of an ASCII text
- `spellFrom_eq_self_iff`: the spellings that the scan leaves as they are
- `letterCount_spellFrom`, `letterCount_dropHash_lt`, `letterCount_dropSpelledHash_lt`: the scan
  keeps the number of letters, and the removal of a hash does not
- `ofVariable_eq_self`: the spellings that are their own script names
- `ofVariable_eq_self_iff`: the script names of ASCII texts that stay as they are
-/

namespace ScriptBindings.Name

open Text

/-! ## Small letters -/

/-- A character of a host name that is its own spelling. -/
structure IsSmall (c : Char) : Prop where
  question : c ≠ '?'
  separator : isSeparator c = false
  capital : isUppercase c = false
  lowercase : lowercase c = [c]

namespace IsSmall

variable {c : Char}

/-- An underscore is no letter. -/
theorem ne_underscore (h : IsSmall c) : c ≠ '_' := by
  rintro rfl
  exact absurd h.separator (by decide)

/-- Of the small letters only the digits begin a new word. -/
theorem isUpperLike_eq (h : IsSmall c) : isUpperLike c = isDigit c := by
  simp [isUpperLike, h.capital]

end IsSmall

/-- The small spelling of a letter of ASCII is made of small letters. -/
theorem isSmall_of_mem_lowercase {c d : Char} (hascii : c.toNat < 0x80) (hquestion : c ≠ '?')
    -- the letter itself if it was small, or else one of the small letters of ASCII
    (hseparator : isSeparator c = false) (hd : d ∈ lowercase c) : IsSmall d := by
  have hupper : d.isUpper = false := isUpper_of_mem_lowercase hd
  have hplain : d.toNat < 0x80 ∧ d ≠ '?' ∧ isSeparator d = false := by
    rcases ascii_of_mem_lowercase hascii hd with rfl | ⟨hfirst, hlast⟩
    · exact ⟨hascii, hquestion, hseparator⟩
    · -- a small letter stands behind all characters that the scan drops or replaces
      have hne : ∀ x : Char, x.toNat < 0x61 → d ≠ x := by
        rintro x hx rfl
        omega
      refine ⟨by omega, hne '?' (by decide), ?_⟩
      simp [isSeparator, hne ' ' (by decide), hne ':' (by decide), hne '_' (by decide)]
  obtain ⟨hascii', hquestion', hseparator'⟩ := hplain
  refine ⟨hquestion', hseparator', ?_, ?_⟩
  · rw [isUppercase_ascii hascii', hupper]
  · rw [lowercase_ascii hascii', hupper]
    rfl

/-! ## The scan of a spelling -/

variable {upper gap : Bool} {c : Char} {s : List Char}

/-- The scan makes an underscore of an underscore. -/
theorem spellFrom_underscore : spellFrom upper false ('_' :: s) = '_' :: spellFrom upper true s :=
  rfl

/-- The scan keeps a small letter, and puts an underscore before a digit that stands behind a letter
    that is none. -/
theorem spellFrom_letter (h : IsSmall c) :
    spellFrom upper gap (c :: s) =
      if isDigit c && !upper && !gap then '_' :: c :: spellFrom (isDigit c) false s
      else c :: spellFrom (isDigit c) false s := by
  rw [spellFrom, if_neg h.question, h.separator, if_neg Bool.false_ne_true]
  simp only [h.isUpperLike_eq, h.lowercase, List.singleton_append]

/-- The scan leaves a spelling as it is if and only if no digit stands directly behind a letter that
    is none. -/
theorem spellFrom_eq_self_iff (h : IsSpelled IsSmall gap s) :
    spellFrom upper gap s = s ↔
      (∀ d ∈ s.head?, isDigit d = true → upper = true ∨ gap = true) ∧
        s.IsChain fun c d => isDigit d = true → isDigit c = true ∨ c = '_' := by
  -- the flags matter for the first character only; behind it they tell what that character is
  induction h generalizing upper with
  | nil => simp [spellFrom]
  | underscore _ ih =>
    have hdigit : isDigit '_' = false := by decide
    rw [spellFrom_underscore, List.cons_inj_right, ih, List.isChain_cons]
    simp [hdigit]
  | @letter gap c cs hc _ ih =>
    rw [spellFrom_letter hc, List.isChain_cons]
    split
    · -- an underscore would come first
      rename_i hboundary
      simp only [Bool.and_eq_true, Bool.not_eq_true'] at hboundary
      obtain ⟨⟨hdigit, hupper⟩, hgap⟩ := hboundary
      simp [hc.ne_underscore.symm, hdigit, hupper, hgap]
    · rename_i hboundary
      have hstart : isDigit c = true → upper = true ∨ gap = true := by
        intro hdigit
        cases upper
        · cases gap
          · exact absurd (by simp [hdigit]) hboundary
          · exact .inr rfl
        · exact .inl rfl
      rw [List.cons_inj_right, ih]
      simp only [List.head?_cons, Option.mem_some_iff, forall_eq', hc.ne_underscore, or_false,
        Bool.false_eq_true]
      exact (and_iff_right hstart).symm

/-! ## Letters -/

/-- The number of characters of a text that are no underscores. -/
def letterCount (s : List Char) : Nat :=
  s.countP (· != '_')

@[simp] theorem letterCount_nil : letterCount [] = 0 := rfl

@[simp] theorem letterCount_underscore : letterCount ('_' :: s) = letterCount s := by
  simp [letterCount]

@[simp] theorem letterCount_append (s t : List Char) :
    letterCount (s ++ t) = letterCount s + letterCount t :=
  List.countP_append

/-- A letter counts. -/
theorem letterCount_cons (h : c ≠ '_') : letterCount (c :: s) = letterCount s + 1 := by
  simp [letterCount, h]

/-- A part of a text has no more letters than the text. -/
theorem letterCount_le {t : List Char} (h : t.Sublist s) : letterCount t ≤ letterCount s :=
  h.countP_le

/-- The scan of small letters and underscores keeps the number of letters. -/
theorem letterCount_spellFrom (h : ∀ c ∈ s, c = '_' ∨ IsSmall c) :
    letterCount (spellFrom upper gap s) = letterCount s := by
  -- induction on the text, with the state of the scan
  induction s generalizing upper gap with
  | nil => rfl
  | cons c cs ih =>
    obtain ⟨hc, hrest⟩ := List.forall_mem_cons.mp h
    rcases hc with rfl | hc
    · cases gap with
      | true => rw [letterCount_underscore]; exact ih hrest
      | false => rw [spellFrom_underscore, letterCount_underscore, letterCount_underscore, ih hrest]
    · rw [spellFrom_letter hc, letterCount_cons hc.ne_underscore]
      split
      · rw [letterCount_underscore, letterCount_cons hc.ne_underscore, ih hrest]
      · rw [letterCount_cons hc.ne_underscore, ih hrest]

/-- The scan of a spelling makes it no shorter. -/
theorem length_le_spellFrom (h : IsSpelled IsSmall gap s) :
    s.length ≤ (spellFrom upper gap s).length := by
  -- induction on the spelling: each character stays, and underscores may be added
  induction h generalizing upper with
  | nil => exact Nat.le_refl _
  | underscore _ ih => exact Nat.succ_le_succ ih
  | letter hc _ ih =>
    rw [spellFrom_letter hc]
    split
    · exact Nat.le_succ_of_le (Nat.succ_le_succ ih)
    · exact Nat.succ_le_succ ih

/-- The escape of a reserved word adds no letter. -/
theorem letterCount_escapeReserved (s : List Char) :
    letterCount (escapeReserved s) = letterCount s := by
  unfold escapeReserved
  split
  · simp
  · rfl

/-- The digits of a hash are letters in this sense. -/
private theorem IsHashTail.letterCount_eq {isDigit : Char → Bool} {before digits final : List Char}
    (h : IsHashTail isDigit digits final) (hunderscore : isDigit '_' = false) :
    letterCount (before ++ '_' :: digits ++ final) =
      letterCount before + 32 + letterCount final := by
  -- digits are no underscores, so each of them counts
  have hdigits : letterCount digits = 32 := by
    rw [← h.length]
    refine List.countP_eq_length.mpr fun c hc => bne_iff_ne.mpr ?_
    rintro rfl
    exact absurd (hunderscore.symm.trans (h.digits '_' hc)) (by decide)
  rw [letterCount_append, letterCount_append, letterCount_underscore, hdigits]

/-- A host name loses letters with its hash. -/
theorem letterCount_dropHash_lt (h : EndsInHash isHexDigit s) :
    letterCount (dropHash isHexDigit s) < letterCount s := by
  -- the 32 digits are gone, and nothing takes their place
  obtain ⟨before, digits, final, rfl, htail⟩ := h
  rw [dropHash_parts htail (by decide), htail.letterCount_eq (by decide), letterCount_append]
  omega

/-- A long spelling loses letters with its hash. -/
theorem letterCount_dropSpelledHash_lt (hlong : 33 < s.length)
    (h : EndsInHash isSmallHexDigit s) : letterCount (dropSpelledHash s) < letterCount s := by
  obtain ⟨before, digits, final, rfl, htail⟩ := h
  -- what takes the place of the hash is an underscore at most
  have hrest : letterCount (if final = [] then [] else ['_']) = 0 := by
    split
    · rfl
    · rfl
  rw [dropSpelledHash_parts htail hlong, htail.letterCount_eq (by decide), letterCount_append,
    hrest]
  omega

/-! ## Names that stay as they are -/

/-- A hexadecimal digit that is no capital letter is one in small letters. -/
theorem isSmallHexDigit_of_hex (hhex : isHexDigit c = true) (hcapital : isUppercase c = false) :
    isSmallHexDigit c = true := by
  -- the digits in capital letters are left out, since they would be capital letters
  have hcases : isSmallHexDigit c = true ∨ 'A' ≤ c ∧ c ≤ 'F' := by
    simpa [isHexDigit, isSmallHexDigit] using hhex
  refine hcases.resolve_right fun hrange => ?_
  obtain ⟨hfirst, hlast⟩ : 0x41 ≤ c.toNat ∧ c.toNat ≤ 0x46 := by
    simpa [Char.le_def, UInt32.le_iff_toNat_le] using hrange
  have hupper : c.isUpper = true := isUpper_iff.mpr ⟨hfirst, by omega⟩
  rw [isUppercase_ascii (by omega), hupper] at hcapital
  exact Bool.false_ne_true hcapital.symm

/-- A hash of a text without capital letters is one in small letters. -/
theorem EndsInHash.small_of_hex (hsmall : ∀ c ∈ s, c = '_' ∨ IsSmall c)
    (h : EndsInHash isHexDigit s) : EndsInHash isSmallHexDigit s := by
  obtain ⟨before, digits, final, rfl, htail⟩ := h
  refine ⟨before, digits, final, rfl, htail.length, fun c hc => ?_, htail.final⟩
  -- every character is an underscore or small, digits included
  have hcapital : isUppercase c = false := by
    rcases hsmall c (by simp [hc]) with rfl | hc'
    · decide
    · exact hc'.capital
  exact isSmallHexDigit_of_hex (htail.digits c hc) hcapital

/-- A text without capital letters has no mark of a truth value. -/
theorem dropBooleanMark_eq_self (h : ∀ c ∈ s, c = '_' ∨ IsSmall c) : dropBooleanMark s = s := by
  -- the mark needs a capital letter behind the first one
  have hno : isBoolean s = false := by
    unfold isBoolean
    split
    · rename_i c d cs
      rcases h c (by simp) with rfl | hc
      · decide
      · exact hc.capital
    · rfl
  unfold dropBooleanMark
  rw [hno]
  rfl

/-- A spelling that ends in no hash is its own stem. -/
theorem stem_eq_self (h : ∀ c ∈ s, c = '_' ∨ IsSmall c)
    (hno : ¬ (33 < s.length ∧ EndsInHash isSmallHexDigit s)) : stem s = s := by
  -- a hash would be one in small letters, and there is none of those
  have hhash : (if hashLength < s.length then dropHash isHexDigit s else s) = s := by
    split
    · rename_i hlong
      exact dropHash_of_not (by decide) fun hends => hno ⟨hlong, hends.small_of_hex h⟩
    · rfl
  unfold stem
  rw [hhash, dropBooleanMark_eq_self h]

/-- A long script name that ends in a hash loses letters. -/
theorem letterCount_ofVariable_lt (h : ∀ c ∈ s, c = '_' ∨ IsSmall c) (hlong : 33 < s.length)
    (hhash : EndsInHash isSmallHexDigit s) :
    letterCount (ofVariable s false false) < letterCount s := by
  have hstem : stem s = dropBooleanMark (dropHash isHexDigit s) := by
    unfold stem
    rw [if_pos (show hashLength < s.length from hlong)]
  calc letterCount (ofVariable s false false)
      = letterCount (dropSpelledHash (escapeReserved (spelling s))) := by rw [ofVariable_plain]
    _ ≤ letterCount (escapeReserved (spelling s)) :=
        letterCount_le (dropSpelledHash_isPrefix _).sublist
    _ = letterCount (spelling s) := letterCount_escapeReserved _
    _ = letterCount (stem s) := letterCount_spellFrom fun c hc => h c (mem_of_mem_stem hc)
    _ ≤ letterCount (dropHash isHexDigit s) := by
        rw [hstem]
        exact letterCount_le (dropBooleanMark_sublist _)
    _ < letterCount s := letterCount_dropHash_lt hhash.hex_of_small

/-- The escape makes a reserved word longer. -/
theorem escapeReserved_eq_self_iff {t : List Char} (hlength : s.length ≤ t.length) :
    escapeReserved t = s ↔ t = s ∧ s ∉ reservedWords := by
  unfold escapeReserved
  split
  · -- the escaped word is longer than `t`, and so than `s`
    rename_i hreserved
    constructor
    · rintro rfl
      rw [List.length_append, List.length_singleton] at hlength
      omega
    · rintro ⟨rfl, hno⟩
      exact absurd hreserved hno
  · rename_i hfree
    constructor
    · rintro rfl
      exact ⟨rfl, hfree⟩
    · exact And.left

/-- A spelling is its own script name if and only if it is no reserved word, does not end in a hash
    that it is longer than, and is left by the scan as it is. -/
theorem ofVariable_eq_self (h : IsSpelled IsSmall true s) :
    ofVariable s false false = s ↔
      s ∉ reservedWords ∧ ¬ (33 < s.length ∧ EndsInHash isSmallHexDigit s) ∧
        spellFrom true true s = s := by
  have hmem : ∀ c ∈ s, c = '_' ∨ IsSmall c := h.forall_mem
  by_cases hhash : 33 < s.length ∧ EndsInHash isSmallHexDigit s
  · -- the hash takes letters along, and nothing brings them back
    have hlt := letterCount_ofVariable_lt hmem hhash.1 hhash.2
    constructor
    · intro hself
      rw [hself] at hlt
      exact absurd hlt (Nat.lt_irrefl _)
    · exact fun hall => absurd hhash hall.2.1
  · -- without a hash the stem is the text itself, and only the scan is left to look at
    have hspelling : spelling s = spellFrom true true s := by
      unfold spelling
      rw [stem_eq_self hmem hhash]
    rw [ofVariable_plain, hspelling]
    have hescape := escapeReserved_eq_self_iff (t := spellFrom true true s) (length_le_spellFrom h)
    constructor
    · intro hself
      -- a hash that the scan has made would take letters along as well
      have hkept : ¬ (33 < (escapeReserved (spellFrom true true s)).length ∧
          EndsInHash isSmallHexDigit (escapeReserved (spellFrom true true s))) := by
        intro hends
        have hlt := letterCount_dropSpelledHash_lt hends.1 hends.2
        rw [hself, letterCount_escapeReserved, letterCount_spellFrom hmem] at hlt
        exact absurd hlt (Nat.lt_irrefl _)
      rw [dropSpelledHash_of_not hkept] at hself
      obtain ⟨hscan, hfree⟩ := hescape.mp hself
      exact ⟨hfree, hhash, hscan⟩
    · -- then no step changes anything
      rintro ⟨hfree, -, hscan⟩
      rw [hescape.mpr ⟨hscan, hfree⟩, dropSpelledHash_of_not hhash]

/-- The script name of an ASCII text stays as it is when it is spelled once more if and only if it
    is no reserved word, does not end in a hash that it is longer than, and has no digit directly
    behind a character that is neither a digit nor an underscore. -/
theorem ofVariable_eq_self_iff {name r : List Char} (hascii : ∀ c ∈ name, c.toNat < 0x80)
    (hr : ofVariable name false false = r) :
    ofVariable r false false = r ↔
      r ∉ reservedWords ∧ ¬ (33 < r.length ∧ EndsInHash isSmallHexDigit r) ∧
        ¬ ∃ before c d after, r = before ++ c :: d :: after ∧
          isDigit c = false ∧ c ≠ '_' ∧ isDigit d = true := by
  have hspelled : IsSpelled IsSmall true r := by
    rw [← hr]
    exact isSpelled_ofVariable fun c hc hquestion hseparator d hd =>
      isSmall_of_mem_lowercase (hascii c hc) hquestion hseparator hd
  -- a chain is broken where a digit stands behind such a character
  have hchain : spellFrom true true r = r ↔
      ¬ ∃ before c d after, r = before ++ c :: d :: after ∧
        isDigit c = false ∧ c ≠ '_' ∧ isDigit d = true := by
    -- the flags at the beginning allow any character there
    rw [spellFrom_eq_self_iff hspelled, List.isChain_iff_forall_rel_of_append_cons_cons]
    constructor
    · rintro ⟨-, hall⟩ ⟨before, c, d, after, hsplit, hc, hgap, hd⟩
      rcases hall hsplit hd with hdigit | hunderscore
      · exact absurd (hc.symm.trans hdigit) (by decide)
      · exact hgap hunderscore
    · intro hno
      refine ⟨fun _ _ _ => .inl rfl, fun c d before after hsplit hd => ?_⟩
      by_cases hgap : c = '_'
      · exact .inr hgap
      · cases hc : isDigit c with
        | true => exact .inl rfl
        | false => exact absurd ⟨before, c, d, after, hsplit, hc, hgap, hd⟩ hno
  rw [ofVariable_eq_self hspelled, hchain]

/-- Digits that stand behind capital letters only get their underscore in the second spelling. -/
theorem ofVariable_eq_self_iff_capitals :
    (∀ c ∈ "MAX2".toList, c.toNat < 0x80) ∧
      ofVariable "MAX2".toList false false = "max2".toList ∧
      ofVariable "max2".toList false false ≠ "max2".toList := by
  have hascii : ∀ c ∈ "MAX2".toList, c.toNat < 0x80 := by simp
  have hr : ofVariable "MAX2".toList false false = "max2".toList := by decide +kernel
  refine ⟨hascii, hr, fun hself => ?_⟩
  obtain ⟨-, -, hno⟩ := (ofVariable_eq_self_iff hascii hr).mp hself
  exact hno ⟨"ma".toList, 'x', '2', [], by decide⟩

end ScriptBindings.Name

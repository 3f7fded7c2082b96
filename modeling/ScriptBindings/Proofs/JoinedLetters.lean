import ScriptBindings.Proofs.SpelledCharacters

/-!
# Spellings by their letters

The scan of a host name goes from character to character with two flags. Its result can be told
without them: every letter of the name is spelled in its place, and whether an underscore stands
behind it depends on the next letter and on the text in between. A name without question mark and
`@` is this joined form of its stem, with the escape of a reserved word or without the hash at its
end.

## Key results

- `isLetter_of_mem_lowercase`: small spellings are made of letters
- `joined`: the letters of a text with the underscores between them
- `spelling_eq_joined`: the scan gives the joined form
- `filter_joined`: it has every letter of the text, and each once
- `joined_append`: the joined form of a text that is taken apart behind a letter
- `IsSpelled.not_doublesSeparator`: no spelling has two separators side by side
- `isUnhashed_iff`, `isFinished_iff`: what happens before and after the scan
- `ofVariable_joined`: the name of a host variable from the letters of the host name
-/

namespace ScriptBindings.Name

open Text

variable {name s r : List Char} {c d : Char}

/-! ## Letters -/

/-- The letters of a host name are its characters other than question marks and separators. -/
def isLetter (c : Char) : Bool :=
  c != '?' && !isSeparator c

theorem isLetter_iff : isLetter c = true ↔ c ≠ '?' ∧ isSeparator c = false := by
  simp [isLetter]

/-- An underscore is no letter. -/
theorem ne_underscore_of_isLetter (h : isLetter c = true) : c ≠ '_' := by
  rintro rfl
  exact absurd h (by decide)

/-- What is no letter stands before `a`. -/
private theorem toNat_of_not_isLetter (h : isLetter c = false) : 0 < c.toNat ∧ c.toNat < 0x61 := by
  have hcases : c = '?' ∨ (c = ' ' ∨ c = ':') ∨ c = '_' := by
    by_contra hother
    simp only [not_or] at hother
    simp [isLetter, isSeparator, hother] at h
  rcases hcases with rfl | (rfl | rfl) | rfl <;> decide

/-- The small spelling of a letter is made of letters. -/
theorem isLetter_of_mem_lowercase (hc : isLetter c = true) (hd : d ∈ lowercase c) :
    isLetter d = true := by
  -- small spellings of other characters are apart from those three
  by_contra hno
  have hcode := toNat_of_not_isLetter (by simpa using hno)
  obtain rfl : d = c := eq_of_mem_lowercase hd hcode.1 hcode.2
  exact hno hc

/-- A name without question mark and `@` is made of letters and underscores. -/
theorem isSpelled_letters (name : List Char) :
    IsSpelled (isLetter · = true) true (ofVariable name false false) :=
  isSpelled_ofVariable fun _ _ hquestion hseparator _ hd =>
    isLetter_of_mem_lowercase (isLetter_iff.mpr ⟨hquestion, hseparator⟩) hd

/-! ## The joined form -/

/-- The underscore behind the letter `c` of a text that goes on with `rest`. There is one if a
    separator stands before the next letter, or if that letter is upper-like and `c` is not. -/
def gapBehind (c : Char) (rest : List Char) : List Char :=
  let separated := (rest.takeWhile (!isLetter ·)).any isSeparator
  let newWord := (rest.find? isLetter).any fun next => isUpperLike next && !isUpperLike c
  if separated || newWord then ['_'] else []

/-- The small spellings of all letters of a text, each with its underscore. -/
def joined : List Char → List Char
  | [] => []
  | c :: rest =>
    if isLetter c then lowercase c ++ gapBehind c rest ++ joined rest else joined rest

theorem joined_letter (h : isLetter c = true) (rest : List Char) :
    joined (c :: rest) = lowercase c ++ gapBehind c rest ++ joined rest :=
  if_pos h

theorem joined_other (h : isLetter c = false) (rest : List Char) :
    joined (c :: rest) = joined rest :=
  if_neg (Bool.eq_false_iff.mp h)

/-- A question mark makes no difference to the letter before it. -/
theorem gapBehind_question (c : Char) (rest : List Char) :
    gapBehind c ('?' :: rest) = gapBehind c rest := by
  have hletter : isLetter '?' = false := by decide
  have hseparator : isSeparator '?' = false := by decide
  simp [gapBehind, hletter, hseparator]

/-- A separator makes an underscore behind the letter before it. -/
theorem gapBehind_separator (c : Char) (h : isSeparator d = true) (rest : List Char) :
    gapBehind c (d :: rest) = ['_'] := by
  have hletter : isLetter d = false := by simp [isLetter, h]
  simp [gapBehind, hletter, h]

/-- Between neighbouring letters there is an underscore if the second one begins a word. -/
theorem gapBehind_letter (c : Char) (h : isLetter d = true) (rest : List Char) :
    gapBehind c (d :: rest) = if isUpperLike d && !isUpperLike c then ['_'] else [] := by
  simp [gapBehind, h]

/-- At the beginning or behind an underscore the scan gives the joined form, and behind a letter it
    gives the underscore of that letter first. -/
private theorem spellFrom_joined (s : List Char) :
    (∀ upper, spellFrom upper true s = joined s) ∧
      ∀ c, spellFrom (isUpperLike c) false s = gapBehind c s ++ joined s := by
  -- the two forms need each other: a letter ends the first, and a separator ends the second
  induction s with
  | nil => exact ⟨fun _ => rfl, fun _ => rfl⟩
  | cons d rest ih =>
    obtain ⟨ihGap, ihLetter⟩ := ih
    -- a question mark is passed over in both forms
    by_cases hquestion : d = '?'
    · subst hquestion
      have hother := joined_other (c := '?') (by decide) rest
      refine ⟨fun upper => ?_, fun c => ?_⟩
      · rw [spellFrom, if_pos rfl, ihGap, hother]
      · rw [spellFrom, if_pos rfl, ihLetter, gapBehind_question, hother]
    · cases hseparator : isSeparator d with
      -- a separator opens a gap, if there is none yet
      | true =>
        have hother := joined_other (c := d) (by simp [isLetter, hseparator]) rest
        refine ⟨fun upper => ?_, fun c => ?_⟩
        · rw [spellFrom, if_neg hquestion, if_pos hseparator, if_pos rfl, ihGap, hother]
        · rw [spellFrom, if_neg hquestion, if_pos hseparator, if_neg Bool.false_ne_true, ihGap,
            gapBehind_separator c hseparator, hother, List.singleton_append]
      | false =>
        -- a letter begins a word or goes on with one, and the rest stands behind it
        have hletter : isLetter d = true := isLetter_iff.mpr ⟨hquestion, hseparator⟩
        have hword : lowercase d ++ spellFrom (isUpperLike d) false rest = joined (d :: rest) := by
          rw [ihLetter, joined_letter hletter, List.append_assoc]
        refine ⟨fun upper => ?_, fun c => ?_⟩
        · simp [spellFrom, hquestion, hseparator, hword]
        · rw [gapBehind_letter c hletter]
          simp only [spellFrom, hquestion, hseparator, hword, if_false, Bool.false_eq_true]
          cases isUpperLike d && !isUpperLike c <;> simp

/-- The spelling of a host name is the joined form of its stem. -/
theorem spelling_eq_joined (name : List Char) : spelling name = joined (stem name) :=
  (spellFrom_joined (stem name)).1 true

-- capital letters and digits in a row are one word, and its end does not show
example : joined "Set? HUDText: 2D".toList = "set_hudtext_2d".toList := by decide +kernel

/-- Without its underscores the joined form is made of the small spellings of all letters, in their
    order and each once. -/
theorem filter_joined (s : List Char) :
    (joined s).filter (· != '_') = (s.filter isLetter).flatMap lowercase := by
  -- induction on the text, letter by letter
  induction s with
  | nil => rfl
  | cons c rest ih =>
    cases hc : isLetter c with
    | false => rw [joined_other hc, ih, List.filter_cons_of_neg (by simp [hc])]
    | true =>
      have hword : (lowercase c).filter (· != '_') = lowercase c := by
        refine List.filter_eq_self.mpr fun d hd => bne_iff_ne.mpr ?_
        exact ne_underscore_of_isLetter (isLetter_of_mem_lowercase hc hd)
      -- the underscore behind a letter is all that is taken out
      have hgap : (gapBehind c rest).filter (· != '_') = [] := by
        simp only [gapBehind]
        split <;> rfl
      rw [joined_letter hc, List.filter_append, List.filter_append, hword, hgap, ih,
        List.filter_cons_of_pos hc, List.flatMap_cons, List.append_nil]

/-- The underscore behind a letter does not depend on what stands behind the next letter. -/
theorem gapBehind_append (c : Char) (before : List Char) (h : isLetter d = true)
    (rest : List Char) : gapBehind c (before ++ d :: rest) = gapBehind c (before ++ [d]) := by
  -- up to the letter `d` both texts are the same, and neither search looks further
  have hbetween : (before ++ d :: rest).takeWhile (!isLetter ·) =
      (before ++ [d]).takeWhile (!isLetter ·) := by
    induction before with
    | nil => simp [h]
    | cons x before ih => simp only [List.cons_append, List.takeWhile_cons, ih]
  have hnext : (before ++ d :: rest).find? isLetter = (before ++ [d]).find? isLetter := by
    simp [List.find?_append, h]
  simp only [gapBehind, hbetween, hnext]

/-- Behind a letter the joined form goes on with the underscore of that letter. -/
theorem joined_append (before : List Char) (h : isLetter d = true) (rest : List Char) :
    joined (before ++ d :: rest) = joined (before ++ [d]) ++ (gapBehind d rest ++ joined rest) := by
  -- induction on what stands before the letter
  induction before with
  | nil =>
    have hgap : gapBehind d [] = [] := rfl
    have hend : joined [] = [] := rfl
    simp [joined_letter h, hgap, hend]
  | cons c before ih =>
    rw [List.cons_append, List.cons_append]
    cases hc : isLetter c with
    | false => rw [joined_other hc, joined_other hc, ih]
    | true =>
      rw [joined_letter hc, joined_letter hc, gapBehind_append c before h, ih]
      simp only [List.append_assoc]

/-- The joined form is made of letters with single underscores between them. -/
theorem isSpelled_joined (s : List Char) : IsSpelled (isLetter · = true) true (joined s) := by
  rw [← (spellFrom_joined s).1 true]
  exact isSpelled_spellFrom fun c _ hquestion hseparator d hd =>
    isLetter_of_mem_lowercase (isLetter_iff.mpr ⟨hquestion, hseparator⟩) hd

/-- The spelling of a host name has this form. -/
theorem isSpelled_spelling (name : List Char) :
    IsSpelled (isLetter · = true) true (spelling name) := by
  rw [spelling_eq_joined]
  exact isSpelled_joined (stem name)

/-- Two separators stand side by side in the text. -/
def DoublesSeparator (s : List Char) : Prop :=
  ∃ c d, isSeparator c = true ∧ isSeparator d = true ∧ [c, d] <:+: s

/-- They do not in a spelling, which has underscores for all separators. -/
theorem IsSpelled.not_doublesSeparator {gap : Bool} (h : IsSpelled (isLetter · = true) gap s) :
    ¬ DoublesSeparator s := by
  rintro ⟨c, d, hc, hd, hpair⟩
  -- a separator in a spelling can only be an underscore
  have hunderscore : ∀ x ∈ [c, d], isSeparator x = true → x = '_' := fun x hx hseparator =>
    (h.forall_mem x (hpair.subset hx)).resolve_right (by simp [isLetter, hseparator])
  obtain rfl := hunderscore c (by simp) hc
  obtain rfl := hunderscore d (by simp) hd
  exact h.not_doubled (by decide) hpair

/-! ## Before and after -/

/-- The text `s` is the host name `name` without the hash at its end. Only in a name of more than 33
    characters is one looked for, and a final line feed stays. -/
inductive IsUnhashed (name : List Char) : List Char → Prop
  | hash {before digits final} : 33 < name.length → name = before ++ '_' :: digits ++ final →
      IsHashTail isHexDigit digits final → IsUnhashed name (before ++ final)
  | plain : ¬ (33 < name.length ∧ EndsInHash isHexDigit name) → IsUnhashed name name

/-- The text `r` is the script name for the joined form `j`: with an underscore behind it if it is a
    reserved word, or without its last 33 characters if it is longer than that and ends in a
    hash. -/
inductive IsFinished (j : List Char) : List Char → Prop
  | reserved : j ∈ reservedWords → IsFinished j (j ++ ['_'])
  | hash : j ∉ reservedWords → 33 < j.length → EndsInHash isSmallHexDigit j →
      IsFinished j (j.take (j.length - 33))
  | plain : j ∉ reservedWords → ¬ (33 < j.length ∧ EndsInHash isSmallHexDigit j) → IsFinished j j

/-- There is one text that is the name without its hash. -/
theorem isUnhashed_iff :
    IsUnhashed name s ↔
      s = if hashLength < name.length then dropHash isHexDigit name else name := by
  constructor
  · -- the parts of the name are those that the removal of the hash finds
    rintro (⟨hlong, rfl, htail⟩ | hno)
    · rw [if_pos (show hashLength < _ from hlong), dropHash_parts htail (by decide)]
    · split
      · rename_i hlong
        rw [dropHash_of_not (by decide) fun hhash => hno ⟨hlong, hhash⟩]
      · rfl
  · -- the removal of the hash decides which form it is
    rintro rfl
    split
    · rename_i hlong
      by_cases hhash : EndsInHash isHexDigit name
      · obtain ⟨before, digits, final, rfl, htail⟩ := hhash
        rw [dropHash_parts htail (by decide)]
        exact .hash hlong rfl htail
      · rw [dropHash_of_not (by decide) hhash]
        exact .plain fun hboth => hhash hboth.2
    · rename_i hshort
      exact .plain fun hboth => hshort hboth.1

/-- No reserved word is as long as a hash. -/
theorem length_lt_of_mem_reservedWords : ∀ w ∈ reservedWords, w.length < 32 := by decide

/-- There is one script name for a joined form. -/
theorem isFinished_iff : IsFinished s r ↔ r = dropSpelledHash (escapeReserved s) := by
  -- a reserved word is too short to end in a hash, also with its escape
  have hescaped : s ∈ reservedWords → dropSpelledHash (escapeReserved s) = s ++ ['_'] := by
    intro hreserved
    have hlength := length_lt_of_mem_reservedWords s hreserved
    rw [escapeReserved, if_pos hreserved]
    refine dropSpelledHash_of_not fun hboth => ?_
    have hlong := hboth.1
    rw [List.length_append, List.length_singleton] at hlong
    omega
  have hfree : s ∉ reservedWords → escapeReserved s = s := fun hno => if_neg hno
  constructor
  · -- each form is what the two last steps make of the joined form
    rintro (hreserved | ⟨hno, hlong, hends⟩ | ⟨hno, hkept⟩)
    · exact (hescaped hreserved).symm
    · rw [hfree hno, dropSpelledHash_of_endsInHash hlong hends]
    · rw [hfree hno, dropSpelledHash_of_not hkept]
  · -- the steps are told apart in the order in which they are made
    rintro rfl
    by_cases hreserved : s ∈ reservedWords
    · rw [hescaped hreserved]
      exact .reserved hreserved
    · rw [hfree hreserved]
      by_cases hends : 33 < s.length ∧ EndsInHash isSmallHexDigit s
      · rw [dropSpelledHash_of_endsInHash hends.1 hends.2]
        exact .hash hreserved hends.1 hends.2
      · rw [dropSpelledHash_of_not hends]
        exact .plain hreserved hends

/-! ## Names from letters -/

/-- The name of a host variable comes from the joined form of the host name without its hash and
    without the mark of a truth value. The joined form has each letter of that text once and in its
    place, and neither it nor the name has two separators side by side. -/
theorem ofVariable_joined (name : List Char) :
    (∀ r, ofVariable name false false = r ↔
      ∃ base, IsUnhashed name base ∧ IsFinished (joined (dropBooleanMark base)) r) ∧
    (∀ s, (joined s).filter (· != '_') = (s.filter isLetter).flatMap lowercase ∧
      ¬ DoublesSeparator (joined s)) ∧
    ¬ DoublesSeparator (ofVariable name false false) := by
  refine ⟨fun r => ?_, fun s => ⟨filter_joined s, (isSpelled_joined s).not_doublesSeparator⟩,
    (isSpelled_letters name).not_doublesSeparator⟩
  -- the two last steps come behind the joined form of the stem
  rw [ofVariable_plain, spelling_eq_joined]
  constructor
  · rintro rfl
    exact ⟨_, isUnhashed_iff.mpr rfl, isFinished_iff.mpr rfl⟩
  · rintro ⟨base, hbase, hr⟩
    rw [isUnhashed_iff] at hbase
    subst hbase
    exact (isFinished_iff.mp hr).symm

end ScriptBindings.Name

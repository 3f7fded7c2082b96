import Mathlib.Data.List.Basic
import ScriptBindings.Name.Variable

/-!
# Content hashes at the end of names

A name ends in a content hash if it can be taken apart into what comes before the hash, its
underscore, 32 digits, and maybe one line feed. A text can be taken apart in this way at most once.
Without the hash a host name is what comes before it, followed by the line feed; a spelling, which
loses its last characters, is what comes before, followed by the underscore if there was a line
feed.

## Key results

- `endsInHash_iff`: what the search for a hash finds
- `dropHash_parts`, `dropHash_of_not`: a host name without its hash
- `dropSpelledHash_parts`, `dropSpelledHash_of_not`: a spelling without its hash
- `EndsInHash.hex_of_small`: a hash in small letters is a hash
- `endsInHash_behind`, `dropHash_behind`, `dropSpelledHash_behind`: no hash reaches across a
  character that stands in none
- `EndsInHash.lt_length`, `endsInHash_of_cons`, `dropSpelledHash_cons`: hashes and the first
  character
-/

namespace ScriptBindings.Name

/-- What stands behind the underscore of a hash: 32 digits, and maybe one line feed. -/
structure IsHashTail (isDigit : Char → Bool) (digits final : List Char) : Prop where
  length : digits.length = 32
  digits : ∀ c ∈ digits, isDigit c = true
  final : final = [] ∨ final = ['\n']

/-- The text ends in an underscore and 32 digits, possibly before one final line feed. -/
def EndsInHash (isDigit : Char → Bool) (s : List Char) : Prop :=
  ∃ before digits final, s = before ++ '_' :: digits ++ final ∧ IsHashTail isDigit digits final

variable {isDigit : Char → Bool} {s before digits final : List Char}

/-- A hash is an underscore and 32 digits. -/
theorem isHash_iff :
    isHash isDigit s = true ↔
      ∃ digits, s = '_' :: digits ∧ digits.length = 32 ∧ ∀ c ∈ digits, isDigit c = true := by
  unfold isHash
  split
  · simp [hashLength]
  · rename_i hno
    constructor
    · exact fun h => nomatch h
    · rintro ⟨digits, rfl, -⟩
      exact absurd rfl (hno digits)

namespace IsHashTail

/-- A text that ends in digits has no final line feed. -/
theorem getLast?_ne (h : IsHashTail isDigit digits final) (hfeed : isDigit '\n' = false) :
    (before ++ '_' :: digits).getLast? ≠ some '\n' := by
  have hne : digits ≠ [] := List.ne_nil_of_length_eq_add_one h.length
  -- the last character is one of the digits, and a line feed is none
  rw [List.append_cons, List.getLast?_append_of_ne_nil _ hne]
  intro hlast
  have hdigit := h.digits '\n' (List.mem_of_getLast? hlast)
  exact absurd (hfeed.symm.trans hdigit) (by decide)

/-- The final line feed of a text that ends in a hash is what stands behind the digits. -/
theorem finalLineFeed_eq (h : IsHashTail isDigit digits final) (hfeed : isDigit '\n' = false) :
    finalLineFeed (before ++ '_' :: digits ++ final) = final := by
  unfold finalLineFeed
  -- the line feed is there or not, and is not mistaken for a digit
  rcases h.final with rfl | rfl
  · rw [List.append_nil, if_neg (h.getLast?_ne hfeed)]
  · rw [if_pos List.getLast?_concat]

/-- Without its final line feed a text that ends in a hash ends in the digits. -/
theorem withoutFinalLineFeed_eq (h : IsHashTail isDigit digits final)
    (hfeed : isDigit '\n' = false) :
    withoutFinalLineFeed (before ++ '_' :: digits ++ final) = before ++ '_' :: digits := by
  -- what is left is determined by what has been taken off
  have happend := withoutFinalLineFeed_append (before ++ '_' :: digits ++ final)
  rw [h.finalLineFeed_eq hfeed] at happend
  exact List.append_cancel_right happend

end IsHashTail

/-- The search for a hash finds the texts that end in one. -/
theorem endsInHash_iff (hfeed : isDigit '\n' = false) :
    endsInHash isDigit s = true ↔ EndsInHash isDigit s := by
  constructor
  · intro h
    -- the text is what comes before the hash, the hash, and the line feed taken off at first
    obtain ⟨digits, hdrop, hlength, hdigits⟩ := isHash_iff.mp h
    have hfinal : finalLineFeed s = [] ∨ finalLineFeed s = ['\n'] := by
      unfold finalLineFeed
      split
      · exact .inr rfl
      · exact .inl rfl
    have hs := withoutFinalLineFeed_append s
    rw [← List.take_append_drop ((withoutFinalLineFeed s).length - hashLength)
      (withoutFinalLineFeed s), hdrop] at hs
    exact ⟨_, digits, finalLineFeed s, hs.symm, hlength, hdigits, hfinal⟩
  · -- the text is taken apart in the same places
    rintro ⟨before, digits, final, rfl, htail⟩
    unfold endsInHash
    rw [htail.withoutFinalLineFeed_eq hfeed]
    refine isHash_iff.mpr ⟨digits, ?_, htail.length, htail.digits⟩
    simp [hashLength, htail.length]

/-- Without its hash a host name is what comes before it, and the final line feed. -/
theorem dropHash_parts (h : IsHashTail isDigit digits final) (hfeed : isDigit '\n' = false) :
    dropHash isDigit (before ++ '_' :: digits ++ final) = before ++ final := by
  -- the hash is found, so the text loses it
  have hends : endsInHash isDigit (before ++ '_' :: digits ++ final) = true :=
    (endsInHash_iff hfeed).mpr ⟨before, digits, final, rfl, h⟩
  unfold dropHash
  rw [if_pos hends, h.withoutFinalLineFeed_eq hfeed, h.finalLineFeed_eq hfeed]
  simp [hashLength, h.length]

/-- A host name that ends in no hash stays as it is. -/
theorem dropHash_of_not (hfeed : isDigit '\n' = false) (h : ¬ EndsInHash isDigit s) :
    dropHash isDigit s = s := by
  unfold dropHash
  rw [if_neg (mt (endsInHash_iff hfeed).mp h)]

/-! ## Spellings -/

/-- A long spelling that ends in a hash loses as many characters as a hash has. -/
theorem dropSpelledHash_of_endsInHash (hlong : 33 < s.length)
    (h : EndsInHash isSmallHexDigit s) : dropSpelledHash s = s.take (s.length - 33) := by
  have hends : endsInHash isSmallHexDigit s = true := (endsInHash_iff (by decide)).mpr h
  unfold dropSpelledHash
  rw [if_pos (by simp only [hends, hashLength, hlong, decide_true, Bool.and_self])]
  rfl

/-- Without its hash a long spelling is what comes before the hash. A final line feed is dropped in
    place of the underscore. -/
theorem dropSpelledHash_parts (h : IsHashTail isSmallHexDigit digits final)
    (hlong : 33 < (before ++ '_' :: digits ++ final).length) :
    dropSpelledHash (before ++ '_' :: digits ++ final) =
      before ++ if final = [] then [] else ['_'] := by
  rw [dropSpelledHash_of_endsInHash hlong ⟨before, digits, final, rfl, h⟩]
  -- with a line feed, the cut falls one place further left than the hash begins
  rcases h.final with rfl | rfl
  · simp [h.length]
  · simp [h.length, List.take_append, List.take_of_length_le]

/-- A spelling that is not longer than a hash or ends in none stays as it is. -/
theorem dropSpelledHash_of_not (h : ¬ (33 < s.length ∧ EndsInHash isSmallHexDigit s)) :
    dropSpelledHash s = s := by
  have hno : ¬ (hashLength < s.length ∧ endsInHash isSmallHexDigit s = true) := by
    rw [endsInHash_iff (by decide)]
    exact h
  unfold dropSpelledHash
  rw [if_neg (by simpa only [Bool.and_eq_true, decide_eq_true_eq] using hno)]

/-- Digits in small letters are digits. -/
theorem EndsInHash.hex_of_small (h : EndsInHash isSmallHexDigit s) : EndsInHash isHexDigit s := by
  -- the same parts, read with more digits
  obtain ⟨before, digits, final, hs, htail⟩ := h
  refine ⟨before, digits, final, hs, htail.length, fun c hc => ?_, htail.final⟩
  have hsmall := htail.digits c hc
  unfold isSmallHexDigit at hsmall
  simp [isHexDigit, hsmall]

/-! ## Behind a character -/

/-- The character stands in no hash. -/
structure StandsInNoHash (isDigit : Char → Bool) (d : Char) : Prop where
  underscore : d ≠ '_'
  digit : isDigit d = false
  feed : d ≠ '\n'

variable {d : Char}

/-- A hash is made of other characters. -/
theorem StandsInNoHash.not_mem (hd : StandsInNoHash isDigit d)
    (h : IsHashTail isDigit digits final) :
    d ∉ '_' :: (digits ++ final) := by
  intro hmem
  -- the character would be the underscore, a digit or the line feed
  rcases List.mem_cons.mp hmem with hunderscore | hmem
  · exact hd.underscore hunderscore
  · rcases List.mem_append.mp hmem with hdigits | hfinal
    · exact absurd (h.digits d hdigits) (by simp [hd.digit])
    · rcases h.final with rfl | rfl
      · exact nomatch hfinal
      · exact hd.feed (List.mem_singleton.mp hfinal)

/-- So no hash reaches across it. -/
theorem endsInHash_behind (hd : StandsInNoHash isDigit d) (before s : List Char) :
    EndsInHash isDigit (before ++ d :: s) ↔ EndsInHash isDigit s := by
  constructor
  · rintro ⟨front, digits, final, heq, htail⟩
    have hno := hd.not_mem htail
    rw [List.append_assoc, List.cons_append] at heq
    -- the text of the hash is longer than what stands behind the character, or not
    rcases List.append_eq_append_iff.mp heq with ⟨middle, -, hend⟩ | ⟨middle, -, hend⟩
    · cases middle with
      | nil =>
        -- the hash would begin with the character
        rw [List.nil_append] at hend
        rw [← hend] at hno
        exact absurd List.mem_cons_self hno
      | cons x middle =>
        rw [List.cons_append, List.cons.injEq] at hend
        refine ⟨middle, digits, final, ?_, htail⟩
        rw [hend.2, List.append_assoc, List.cons_append]
    · -- the character would lie within the hash
      rw [hend] at hno
      exact absurd (List.mem_append_right _ List.mem_cons_self) hno
  · -- what comes before does not matter to how the text ends
    rintro ⟨front, digits, final, rfl, htail⟩
    exact ⟨before ++ d :: front, digits, final, by simp, htail⟩

/-- A text that ends in a hash has at least the characters of a hash. -/
theorem EndsInHash.le_length (h : EndsInHash isDigit s) : 33 ≤ s.length := by
  obtain ⟨before, digits, final, rfl, htail⟩ := h
  simp only [List.length_append, List.length_cons, htail.length]
  omega

/-- A host name loses the same hash with the character and what stands before it as without them. -/
theorem dropHash_behind (hd : StandsInNoHash isDigit d) (hfeed : isDigit '\n' = false)
    (before s : List Char) :
    dropHash isDigit (before ++ d :: s) = before ++ d :: dropHash isDigit s := by
  -- the parts of the hash are found behind the character as well
  by_cases h : EndsInHash isDigit s
  · obtain ⟨front, digits, final, rfl, htail⟩ := h
    have hparts : dropHash isDigit (before ++ d :: front ++ '_' :: digits ++ final) =
        before ++ d :: front ++ final := dropHash_parts htail hfeed
    rw [dropHash_parts htail hfeed]
    simpa using hparts
  · rw [dropHash_of_not hfeed h,
      dropHash_of_not hfeed fun hno => h ((endsInHash_behind hd _ _).mp hno)]

/-- The length that a hash is looked for in makes no difference behind such a character. -/
theorem dropHash_behind_of_length (hd : StandsInNoHash isDigit d) (hfeed : isDigit '\n' = false)
    (before s : List Char) :
    (if hashLength < (before ++ d :: s).length then dropHash isDigit (before ++ d :: s)
      else before ++ d :: s) = before ++ d :: dropHash isDigit s := by
  split
  · exact dropHash_behind hd hfeed before s
  · -- a text that is too short has no hash behind the character either
    rename_i hshort
    have hno : ¬ EndsInHash isDigit s := by
      intro h
      have hlength := h.le_length
      simp only [hashLength, List.length_append, List.length_cons] at hshort
      omega
    rw [dropHash_of_not hfeed hno]

/-- A text without the last 33 characters, if it ends in a hash. It need not be longer than that. -/
def cutHash (s : List Char) : List Char :=
  if endsInHash isSmallHexDigit s then s.take (s.length - 33) else s

/-- Such a text is the beginning of that text. -/
theorem cutHash_isPrefix (s : List Char) : cutHash s <+: s := by
  unfold cutHash
  split
  · exact List.take_prefix _ _
  · exact List.prefix_refl _

/-- What a spelling loses behind the character does not depend on what stands before it. -/
theorem dropSpelledHash_behind (hd : StandsInNoHash isSmallHexDigit d) (before s : List Char) :
    dropSpelledHash (before ++ d :: s) = before ++ d :: cutHash s := by
  have hfeed : isSmallHexDigit '\n' = false := by decide
  unfold cutHash
  by_cases h : EndsInHash isSmallHexDigit s
  · -- the last 33 characters are the same ones, as all of them stand behind the character
    have hlength := h.le_length
    have hsplit : before ++ d :: s = (before ++ [d]) ++ s := by simp
    have hlong : 33 < (before ++ d :: s).length := by
      rw [hsplit, List.length_append, List.length_append, List.length_singleton]
      omega
    have hcut : (before ++ d :: s).length - 33 = (before ++ [d]).length + (s.length - 33) := by
      rw [hsplit, List.length_append]
      omega
    rw [if_pos ((endsInHash_iff hfeed).mpr h),
      dropSpelledHash_of_endsInHash hlong ((endsInHash_behind hd before s).mpr h), hcut, hsplit,
      List.take_length_add_append, List.append_assoc, List.singleton_append]
  · rw [if_neg (mt (endsInHash_iff hfeed).mp h)]
    exact dropSpelledHash_of_not fun hboth => h ((endsInHash_behind hd before s).mp hboth.2)

/-! ## At the beginning -/

/-- A text that ends in a hash is longer than that, unless it begins with its underscore. -/
theorem EndsInHash.lt_length (h : EndsInHash isDigit s)
    (hstart : s.head? ≠ some '_') : 33 < s.length := by
  obtain ⟨before, digits, final, rfl, htail⟩ := h
  -- something stands before the underscore, which makes one character more
  cases before with
  | nil => exact absurd rfl hstart
  | cons x before =>
    simp only [List.length_append, List.length_cons, htail.length]
    omega

/-- A hash does not begin with a character other than an underscore. -/
theorem endsInHash_of_cons (hd : d ≠ '_')
    (h : EndsInHash isDigit (d :: s)) : EndsInHash isDigit s := by
  obtain ⟨before, digits, final, heq, htail⟩ := h
  -- the first character belongs to what comes before the hash
  cases before with
  | nil =>
    rw [List.nil_append, List.cons_append, List.cons.injEq] at heq
    exact absurd heq.1 hd
  | cons x before =>
    rw [List.cons_append, List.cons_append, List.cons.injEq] at heq
    exact ⟨before, digits, final, heq.2, htail⟩

/-- A spelling that does not begin with an underscore loses the same hash with such a character
    before it as without. -/
theorem dropSpelledHash_cons (hd : StandsInNoHash isSmallHexDigit d) (hstart : s.head? ≠ some '_') :
    dropSpelledHash (d :: s) = d :: dropSpelledHash s := by
  have hfeed : isSmallHexDigit '\n' = false := by decide
  have hbehind : dropSpelledHash (d :: s) = d :: cutHash s := dropSpelledHash_behind hd [] s
  -- with the character before it, the text is long enough for any hash that it ends in
  rw [hbehind, cutHash]
  split
  · rename_i hfound
    have hends := (endsInHash_iff hfeed).mp hfound
    rw [dropSpelledHash_of_endsInHash (hends.lt_length hstart) hends]
  · rename_i hno
    rw [dropSpelledHash_of_not fun hboth => hno ((endsInHash_iff hfeed).mpr hboth.2)]

end ScriptBindings.Name

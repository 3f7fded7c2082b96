import ScriptBindings.Name.Method
import ScriptBindings.Proofs.JoinedLetters

/-!
# Names that end in a hash

The hash at the end of a host name is dropped before anything else is looked at, so no script name
depends on it. The hash at the end of a spelling is dropped last, after the spelling has been kept
apart from the reserved words: what comes before such a hash is not looked at again, and may be a
reserved word.

## Key results

- `IsUnhashed.stem_eq`, `stem_hash`, `stem_plain`: the stem of a name with a hash is that of the
  name without it
- `ofVariable_hash_ignored`: names that differ in their hashes only are spelled alike
- `ofVariable_eq_reserved`: which names are spelled as a reserved word
- `ofVariable_mem_reservedWords_iff`: a name is a reserved word only through the hash of its
  spelling
-/

namespace ScriptBindings.Name

open Text

variable {x digits digits' : List Char}

/-! ## The hash of a host name -/

/-- The stem of a name is what is left without its hash, and without the mark of a truth value. -/
theorem IsUnhashed.stem_eq {base : List Char} (h : IsUnhashed x base) :
    stem x = dropBooleanMark base := by
  rw [stem, ← isUnhashed_iff.mp h]

/-- The stem of a name with a hash does not depend on the hash. -/
theorem stem_hash (hx : x ≠ []) (h : IsHashTail isHexDigit digits []) :
    stem (x ++ '_' :: digits) = dropBooleanMark x := by
  have hpos : 0 < x.length := List.length_pos_iff.mpr hx
  -- with something before the hash, the name is long enough to be searched
  have hlong : 33 < (x ++ '_' :: digits).length := by
    rw [List.length_append, List.length_cons, h.length]
    omega
  have hparts : x ++ '_' :: digits = x ++ '_' :: digits ++ [] := (List.append_nil _).symm
  rw [(IsUnhashed.hash hlong hparts h).stem_eq, List.append_nil]

/-- A name in which no hash is found keeps all its characters but the mark of a truth value. -/
theorem stem_plain (h : ¬ (33 < x.length ∧ EndsInHash isHexDigit x)) :
    stem x = dropBooleanMark x :=
  (IsUnhashed.plain h).stem_eq

/-- The form of a truth value shows in the first two characters of a name of at least three. -/
theorem isBoolean_cons (a b c : Char) (rest : List Char) :
    isBoolean (a :: b :: c :: rest) = (decide (a = 'b') && isUppercase b) := by
  by_cases ha : a = 'b'
  · subst ha
    rfl
  · simp [isBoolean, ha]

/-- Whether a name with a hash has the form of a truth value does not depend on the hash. -/
theorem isBoolean_hash (hx : x ≠ []) (hdigits : digits ≠ []) (hdigits' : digits' ≠ []) :
    isBoolean (x ++ '_' :: digits) = isBoolean (x ++ '_' :: digits') := by
  obtain ⟨d, ds, rfl⟩ := List.exists_cons_of_ne_nil hdigits
  obtain ⟨d', ds', rfl⟩ := List.exists_cons_of_ne_nil hdigits'
  -- the hash begins with the second character at the earliest, and always with an underscore
  match x, hx with
  | [_], _ => simp only [List.cons_append, List.nil_append, isBoolean_cons]
  | [_, _], _ => simp only [List.cons_append, List.nil_append, isBoolean_cons]
  | _ :: _ :: _ :: _, _ => simp only [List.cons_append, isBoolean_cons]

/-- The names of a host variable and of a host function do not depend on the hash at the end of the
    host name, and that of a variable is the same without the hash if no other one stands before
    it. -/
theorem ofVariable_hash_ignored (hx : x ≠ []) (hlength : digits.length = 32)
    (hlength' : digits'.length = 32) (hdigits : ∀ c ∈ digits, isHexDigit c = true)
    (hdigits' : ∀ c ∈ digits', isHexDigit c = true) (question member returnsBoolean : Bool) :
    ofVariable (x ++ '_' :: digits) question member =
        ofVariable (x ++ '_' :: digits') question member ∧
      ofMethod (x ++ '_' :: digits) returnsBoolean =
        ofMethod (x ++ '_' :: digits') returnsBoolean ∧
      (¬ (33 < x.length ∧ EndsInHash isHexDigit x) →
        ofVariable (x ++ '_' :: digits) question member = ofVariable x question member) := by
  -- both hashes are of the form that is looked for
  have htail : IsHashTail isHexDigit digits [] := ⟨hlength, hdigits, .inl rfl⟩
  have htail' : IsHashTail isHexDigit digits' [] := ⟨hlength', hdigits', .inl rfl⟩
  have hne : ∀ ds : List Char, x ++ '_' :: ds ≠ [] := by simp
  -- the stem is the same with either hash, and all else is made from the stem
  have hvariable : ∀ q m, ofVariable (x ++ '_' :: digits) q m =
      ofVariable (x ++ '_' :: digits') q m := by
    intro q m
    simp only [ofVariable, hne, if_false, spelling, stem_hash hx htail, stem_hash hx htail']
  -- whether it is a truth value shows before the hash
  have hboolean : isBoolean (x ++ '_' :: digits) = isBoolean (x ++ '_' :: digits') :=
    isBoolean_hash hx (List.ne_nil_of_length_eq_add_one hlength)
      (List.ne_nil_of_length_eq_add_one hlength')
  refine ⟨hvariable question member, ?_, fun hplain => ?_⟩
  · simp only [ofMethod, hvariable false false, hboolean]
  · simp only [ofVariable, hne, hx, if_false, spelling, stem_hash hx htail, stem_plain hplain]

/-- A truth value with a hash in small letters, with one in capital letters, and with none. -/
theorem ofVariable_hash_ignored_open :
    "bIsOpen".toList ≠ [] ∧ (∀ c ∈ List.replicate 32 'c', isHexDigit c = true) ∧
      (∀ c ∈ List.replicate 32 'E', isHexDigit c = true) ∧
      ¬ (33 < "bIsOpen".toList.length ∧ EndsInHash isHexDigit "bIsOpen".toList) ∧
      ofVariable ("bIsOpen".toList ++ '_' :: List.replicate 32 'c') true true =
        ofVariable ("bIsOpen".toList ++ '_' :: List.replicate 32 'E') true true ∧
      ofMethod ("bIsOpen".toList ++ '_' :: List.replicate 32 'c') true =
        ofMethod ("bIsOpen".toList ++ '_' :: List.replicate 32 'E') true ∧
      ofVariable ("bIsOpen".toList ++ '_' :: List.replicate 32 'c') true true =
        ofVariable "bIsOpen".toList true true := by
  have hne : "bIsOpen".toList ≠ [] := by decide
  have hsmall : ∀ c ∈ List.replicate 32 'c', isHexDigit c = true :=
    List.all_eq_true.mp (by decide)
  have hcapital : ∀ c ∈ List.replicate 32 'E', isHexDigit c = true :=
    List.all_eq_true.mp (by decide)
  have hplain : ¬ (33 < "bIsOpen".toList.length ∧ EndsInHash isHexDigit "bIsOpen".toList) :=
    fun hlong => absurd hlong.1 (by decide)
  have hall := ofVariable_hash_ignored hne List.length_replicate List.length_replicate hsmall
    hcapital true true true
  exact ⟨hne, hsmall, hcapital, hplain, hall.1, hall.2.1, hall.2.2 hplain⟩

/-! ## The hash of a spelling -/

/-- A name is spelled as a given reserved word if and only if its spelling is that word with a hash
    behind it. -/
theorem ofVariable_eq_reserved {name w : List Char} (hw : w ∈ reservedWords) :
    ofVariable name false false = w ↔
      ∃ digits, spelling name = w ++ '_' :: digits ∧ IsHashTail isSmallHexDigit digits [] := by
  obtain ⟨hne, hlast⟩ := reservedWords_last w hw
  -- the name is what becomes of the joined form, whichever that is
  rw [ofVariable_plain, eq_comm, ← isFinished_iff]
  generalize spelling name = j
  constructor
  · intro h
    cases h with
    -- an escaped word ends in an underscore, which no reserved word does
    | reserved _ => simp at hlast
    | plain hfree _ => exact absurd hw hfree
    -- what is left is the text before the hash, unless a line feed has moved the cut
    | hash _ hlong hends =>
      rw [← dropSpelledHash_of_endsInHash hlong hends] at hlast ⊢
      obtain ⟨before, digits, final, rfl, htail⟩ := hends
      rw [dropSpelledHash_parts htail hlong] at hlast ⊢
      rcases htail.final with rfl | rfl
      · exact ⟨digits, by simp, htail⟩
      · -- the underscore is left of a hash with a line feed behind it
        simp at hlast
  · rintro ⟨digits, rfl, htail⟩
    have hpos : 0 < w.length := List.length_pos_iff.mpr hne
    -- the hash is removed, because there is something before it
    have hlong : 33 < (w ++ '_' :: digits ++ []).length := by
      simp only [List.length_append, List.length_cons, List.length_nil, htail.length]
      omega
    -- and the spelling is too long to be escaped first
    have hfree : w ++ '_' :: digits ∉ reservedWords := by
      intro hreserved
      have hshort := length_lt_of_mem_reservedWords _ hreserved
      simp only [List.length_append, List.length_cons, htail.length] at hshort
      omega
    have hdrop := dropSpelledHash_parts htail hlong
    rw [if_pos rfl, List.append_nil, List.append_nil] at hdrop
    rw [isFinished_iff, escapeReserved, if_neg hfree, hdrop]

/-- The name of a host variable is a reserved word if and only if its spelling is a reserved word
    with a hash behind it: the word is not looked at again when the hash has been dropped. -/
theorem ofVariable_mem_reservedWords_iff (name : List Char) :
    ofVariable name false false ∈ reservedWords ↔
      ∃ w ∈ reservedWords, ∃ digits, spelling name = w ++ '_' :: digits ∧
        digits.length = 32 ∧ ∀ c ∈ digits, isSmallHexDigit c = true := by
  constructor
  · intro hreserved
    obtain ⟨digits, hspelling, htail⟩ := (ofVariable_eq_reserved hreserved).mp rfl
    exact ⟨_, hreserved, digits, hspelling, htail.length, htail.digits⟩
  · rintro ⟨w, hw, digits, hspelling, hlength, hdigits⟩
    rw [(ofVariable_eq_reserved hw).mpr ⟨digits, hspelling, hlength, hdigits, .inl rfl⟩]
    exact hw

/-- A hash behind a blank is none in the host name, but one in the spelling. -/
theorem ofVariable_if_hash :
    ofVariable ("if ".toList ++ List.replicate 32 'a') false false = "if".toList ∧
      "if".toList ∈ reservedWords := by
  decide +kernel

end ScriptBindings.Name

import ScriptBindings.Proofs.HashedNames
import ScriptBindings.Proofs.MethodNames

/-!
# Getters and setters

A host that has `GetX` and `SetX` names the same thing in both, with or without a `K2_` before them.
All four names end their first part in a small `t`, behind which a capital letter follows. No hash
reaches across that letter, and the scan puts an underscore behind it whatever stands before it, so
what is left of `X` is the same in all of them.

## Key results

- `spelledBehind`: what is left of the rest of a name behind its first part
- `spelledBehind_cases`: what is left of the rest, unless nothing is
- `stem_behind`, `spelling_behind`, `ofVariable_behind`: a name is spelled part by part
- `ofSpelled_get`, `ofSpelled_set`: the names of methods with such spellings
- `ofMethod_paired`: the names of getters and setters
-/

namespace ScriptBindings.Name

open Text

variable {c d : Char} {ds rest first spelled : List Char}

/-! ## The rest of a name -/

/-- What is left of the rest of a name behind its first part, together with the underscore between
    them. -/
def spelledBehind (rest : List Char) : List Char :=
  cutHash ('_' :: joined (dropHash isHexDigit rest))

/-- A capital letter of ASCII is a letter that begins a word. -/
theorem isLetter_of_isUpper (h : c.isUpper = true) : isLetter c = true ∧ isUpperLike c = true := by
  have hcode := isUpper_iff.mp h
  have hne : ∀ x : Char, x.isUpper = false → c ≠ x := by
    rintro x hx rfl
    rw [h] at hx
    exact Bool.noConfusion hx
  constructor
  · -- a capital letter is none of the characters that are no letters
    apply isLetter_iff.mpr
    refine ⟨hne '?' (by decide), ?_⟩
    simp [isSeparator, hne ' ' (by decide), hne ':' (by decide), hne '_' (by decide)]
  · simp [isUpperLike, isUppercase_ascii (by omega : c.toNat < 0x80), h]

/-- The small spelling of a capital letter of ASCII is one small letter, which is no digit. -/
theorem lowercase_of_isUpper (h : c.isUpper = true) :
    ∃ d, lowercase c = [d] ∧ isDigit d = false := by
  have hcode := isUpper_iff.mp h
  have hsmall : lowercase c = [Char.ofNat (c.toNat + 0x20)] := by
    rw [lowercase_ascii (by omega), if_pos h]
  -- it is moved by 32 in the table of ASCII, where no digits are
  refine ⟨_, hsmall, ?_⟩
  have hmem : Char.ofNat (c.toNat + 0x20) ∈ lowercase c := by
    rw [hsmall]
    exact List.mem_singleton_self _
  have hletter := toNat_of_mem_lowercase h hmem
  rw [isDigit_ascii (by omega), Bool.eq_false_iff]
  intro hdigit
  have hrange := isDigit_iff.mp hdigit
  omega

/-- A name keeps its first character when it loses its hash, unless that is an underscore. -/
theorem dropHash_cons (h : c ≠ '_') (rest : List Char) :
    ∃ others, dropHash isHexDigit (c :: rest) = c :: others := by
  by_cases hends : EndsInHash isHexDigit (c :: rest)
  · -- the hash begins behind the capital letter
    obtain ⟨before, digits, final, rfl, htail⟩ := endsInHash_of_cons h hends
    have hparts : dropHash isHexDigit (c :: before ++ '_' :: digits ++ final) =
        c :: before ++ final := dropHash_parts htail (by decide)
    exact ⟨before ++ final, hparts⟩
  · rw [dropHash_of_not (by decide) hends]
    exact ⟨rest, rfl⟩

/-- What is left behind the first part is nothing, or an underscore alone, or an underscore and a
    text that does not begin with a digit. -/
theorem spelledBehind_cases (h : c.isUpper = true) (rest : List Char) :
    (spelledBehind (c :: rest)).length ≤ 1 ∨
      ∃ d ds, spelledBehind (c :: rest) = '_' :: d :: ds ∧ isDigit d = false := by
  obtain ⟨hletter, -⟩ := isLetter_of_isUpper h
  obtain ⟨d, hd, hdigit⟩ := lowercase_of_isUpper h
  obtain ⟨others, hothers⟩ := dropHash_cons (ne_underscore_of_isLetter hletter) rest
  -- the cut keeps the beginning of the text, so it is enough to look at its first two characters
  have hbeginning := cutHash_isPrefix ('_' :: joined (dropHash isHexDigit (c :: rest)))
  rw [hothers, joined_letter hletter, hd] at hbeginning
  unfold spelledBehind
  rw [hothers, joined_letter hletter, hd]
  generalize cutHash _ = left at hbeginning ⊢
  match left with
  | [] => exact .inl (Nat.zero_le 1)
  | [_] => exact .inl (Nat.le_refl 1)
  | x :: y :: ys =>
    rw [List.append_assoc, List.singleton_append, List.cons_prefix_cons, List.cons_prefix_cons]
      at hbeginning
    obtain ⟨rfl, rfl, -⟩ := hbeginning
    exact .inr ⟨y, ys, rfl, hdigit⟩

/-! ## Part by part -/

/-- The first part of a name, which is spelled `spelled`: both end in a small `t`, and the name does
    not have the form of a truth value. -/
structure IsFirstPart (first spelled : List Char) : Prop where
  joined : joined first = spelled
  last : first.getLast? = some 't'
  spelledLast : spelled.getLast? = some 't'
  start : first.head? ≠ some 'b'

/-- A text that does not begin with a small `b` has no mark of a truth value. -/
theorem isBoolean_of_head? (h : first.head? ≠ some 'b') (hne : first ≠ []) (rest : List Char) :
    isBoolean (first ++ rest) = false := by
  cases first with
  | nil => exact absurd rfl hne
  | cons a first =>
    have ha : a ≠ 'b' := fun heq => h (congrArg some heq)
    unfold isBoolean
    split
    · rename_i heq
      rw [List.cons_append, List.cons.injEq] at heq
      exact absurd heq.1 ha
    · rfl

/-- A getter or setter does not have the form of a truth value. -/
theorem IsFirstPart.isBoolean_eq (h : IsFirstPart first spelled) (rest : List Char) :
    isBoolean (first ++ rest) = false := by
  apply isBoolean_of_head? h.start
  -- an empty part has no last character
  rintro rfl
  exact nomatch h.last

/-- The hash of a name does not reach across its first part. -/
theorem stem_behind (hfirst : IsFirstPart first spelled) (rest : List Char) :
    stem (first ++ rest) = first ++ dropHash isHexDigit rest := by
  have hboolean := hfirst.isBoolean_eq (dropHash isHexDigit rest)
  have hhash : StandsInNoHash isHexDigit 't' := ⟨by decide, by decide, by decide⟩
  -- the `t` at the end of the part stands in no hash, so the hash is looked for behind it
  obtain ⟨before, rfl⟩ := List.getLast?_eq_some_iff.mp hfirst.last
  rw [List.append_assoc, List.singleton_append] at hboolean ⊢
  rw [List.append_assoc, List.singleton_append, stem,
    dropHash_behind_of_length hhash (by decide), dropBooleanMark, hboolean]
  rfl

/-- The scan puts an underscore behind the first part, because a capital letter follows a small one
    there. -/
theorem spelling_behind (hfirst : IsFirstPart first spelled) (h : c.isUpper = true)
    (rest : List Char) :
    spelling (first ++ c :: rest) = spelled ++ '_' :: joined (dropHash isHexDigit (c :: rest)) := by
  -- a small letter and a capital one behind it are two words
  have hgap : gapBehind 't' (dropHash isHexDigit (c :: rest)) = ['_'] := by
    obtain ⟨hletter, hupper⟩ := isLetter_of_isUpper h
    obtain ⟨others, hothers⟩ := dropHash_cons (ne_underscore_of_isLetter hletter) rest
    have ht : isUpperLike 't' = false := by decide +kernel
    rw [hothers, gapBehind_letter 't' hletter, hupper, ht]
    rfl
  rw [spelling_eq_joined, stem_behind hfirst]
  -- the scan of the whole is the scan of the part, the gap, and the scan of the rest
  obtain ⟨hjoined, hlast, -, -⟩ := hfirst
  obtain ⟨before, rfl⟩ := List.getLast?_eq_some_iff.mp hlast
  rw [List.append_assoc, List.singleton_append, joined_append before (by decide), hjoined, hgap,
    List.singleton_append]

/-- No reserved word has an underscore behind a `t`. -/
private theorem infix_reservedWords : ∀ w ∈ reservedWords, ¬ ['t', '_'] <:+: w := by decide +kernel

/-- A name is spelled part by part: what is left behind the first part does not depend on it. -/
theorem ofVariable_behind (hfirst : IsFirstPart first spelled) (h : c.isUpper = true)
    (rest : List Char) :
    ofVariable (first ++ c :: rest) false false = spelled ++ spelledBehind (c :: rest) := by
  have hspelling := spelling_behind hfirst h rest
  obtain ⟨small, rfl⟩ := List.getLast?_eq_some_iff.mp hfirst.spelledLast
  rw [List.append_assoc, List.singleton_append] at hspelling ⊢
  -- a reserved word with such a pair is looked for in the table
  have hfree : small ++ 't' :: '_' :: joined (dropHash isHexDigit (c :: rest)) ∉ reservedWords := by
    intro hreserved
    apply infix_reservedWords _ hreserved
    exact ⟨small, joined (dropHash isHexDigit (c :: rest)), by simp⟩
  -- the hash of the spelling does not reach across the first part either
  have hhash : StandsInNoHash isSmallHexDigit 't' := ⟨by decide, by decide, by decide⟩
  rw [ofVariable_plain, hspelling, escapeReserved, if_neg hfree, dropSpelledHash_behind hhash]
  rfl

/-- The spellings of the first parts of getters and setters. -/
theorem isFirstPart_access :
    IsFirstPart "Get".toList "get".toList ∧ IsFirstPart "Set".toList "set".toList ∧
      IsFirstPart "K2_Get".toList "k2_get".toList ∧ IsFirstPart "K2_Set".toList "k2_set".toList :=
  ⟨⟨by decide +kernel, rfl, rfl, by decide⟩, ⟨by decide +kernel, rfl, rfl, by decide⟩,
    ⟨by decide +kernel, rfl, rfl, by decide⟩, ⟨by decide +kernel, rfl, rfl, by decide⟩⟩

/-! ## Names of methods -/

/-- The name of a getter, which asks for what it gets if it returns a truth value. -/
theorem ofSpelled_get (hbase : dropKismetMark spelled = "get_".toList ++ d :: ds)
    (h : isDigit d = false) (called returns : Bool) :
    ofSpelled spelled called returns =
      if returns then d :: ds ++ ['?'] else "get_".toList ++ d :: ds := by
  have htarget : getterTarget? (dropKismetMark spelled) = some (d :: ds) :=
    getterTarget?_eq_some.mpr ⟨hbase, d, ds, rfl, h⟩
  -- its action is its own name, because a getter is no setter
  have haction : actionOf (dropKismetMark spelled) = "get_".toList ++ d :: ds := by
    simp only [actionOf, setterTarget?_of_getter htarget]
    exact hbase
  rw [ofSpelled_getter htarget, haction]

/-- The name of a setter. -/
theorem ofSpelled_set (hbase : dropKismetMark spelled = "set_".toList ++ d :: ds)
    (h : isDigit d = false) (called returns : Bool) :
    ofSpelled spelled called returns =
      if returns && (called || isPredicate (d :: ds ++ "_set".toList)) then
        d :: ds ++ "_set".toList ++ ['?']
      else d :: ds ++ "_set".toList := by
  have hgetter : getterTarget? (dropKismetMark spelled) = none := by
    rw [hbase]
    rfl
  have htarget : setterTarget? (dropKismetMark spelled) = some (d :: ds) :=
    setterTarget?_eq_some.mpr ⟨hbase, d, ds, rfl, h⟩
  simp only [ofSpelled_other hgetter, actionOf, htarget]

/-- The name of a method that begins with such a part. -/
theorem ofMethod_behind (hfirst : IsFirstPart first spelled) (h : c.isUpper = true)
    (rest : List Char) (returns : Bool) :
    ofMethod (first ++ c :: rest) returns =
      ofSpelled (spelled ++ spelledBehind (c :: rest)) false returns := by
  rw [ofMethod, ofVariable_behind hfirst h, hfirst.isBoolean_eq]

/-- The getter and the setter of one thing are named after it in the same way, and so is the
    question for a truth value. The only exception is a thing whose name is dropped like a hash. A
    `K2_` before the host names makes no difference. -/
theorem ofMethod_paired (h : c.isUpper = true) (rest : List Char)
    (hlong : 4 < (ofVariable ("Get".toList ++ c :: rest) false false).length) :
    (∃ r, r ≠ [] ∧ ofMethod ("Get".toList ++ c :: rest) false = "get_".toList ++ r ∧
      ofMethod ("Set".toList ++ c :: rest) false = r ++ "_set".toList ∧
      ofMethod ("Get".toList ++ c :: rest) true = r ++ ['?']) ∧
    (∀ returns, ofMethod ("K2_Get".toList ++ c :: rest) returns =
      ofMethod ("Get".toList ++ c :: rest) returns) ∧
    ∀ returns, ofMethod ("K2_Set".toList ++ c :: rest) returns =
      ofMethod ("Set".toList ++ c :: rest) returns := by
  obtain ⟨hget, hset, hkismetGet, hkismetSet⟩ := isFirstPart_access
  -- only the last of the two cases leaves more than four characters
  rw [ofVariable_behind hget h, List.length_append] at hlong
  obtain ⟨d, ds, hleft, hdigit⟩ : ∃ d ds, spelledBehind (c :: rest) = '_' :: d :: ds ∧
      isDigit d = false := by
    rcases spelledBehind_cases h rest with hshort | hleft
    · have hpart : "get".toList.length = 3 := rfl
      omega
    · exact hleft
  -- without their `k2_` the four spellings are two
  have hgetter : dropKismetMark ("get".toList ++ '_' :: d :: ds) = "get_".toList ++ d :: ds := rfl
  have hsetter : dropKismetMark ("set".toList ++ '_' :: d :: ds) = "set_".toList ++ d :: ds := rfl
  have hkismetGetter : dropKismetMark ("k2_get".toList ++ '_' :: d :: ds) =
      "get_".toList ++ d :: ds := dropKismetMark_mark (by decide +kernel) _
  have hkismetSetter : dropKismetMark ("k2_set".toList ++ '_' :: d :: ds) =
      "set_".toList ++ d :: ds := dropKismetMark_mark (by decide +kernel) _
  refine ⟨⟨d :: ds, List.cons_ne_nil d ds, ?_, ?_, ?_⟩, fun returns => ?_, fun returns => ?_⟩
  · rw [ofMethod_behind hget h, hleft, ofSpelled_get hgetter hdigit, if_neg Bool.false_ne_true]
  · rw [ofMethod_behind hset h, hleft, ofSpelled_set hsetter hdigit, Bool.false_and,
      if_neg Bool.false_ne_true]
  · rw [ofMethod_behind hget h, hleft, ofSpelled_get hgetter hdigit, if_pos rfl]
  · rw [ofMethod_behind hkismetGet h, ofMethod_behind hget h, hleft,
      ofSpelled_get hkismetGetter hdigit, ofSpelled_get hgetter hdigit]
  · rw [ofMethod_behind hkismetSet h, ofMethod_behind hset h, hleft,
      ofSpelled_set hkismetSetter hdigit, ofSpelled_set hsetter hdigit]

/-- A thing with a short name and a hash. The hash is found in all names, and neither shows. -/
theorem ofMethod_paired_hash :
    'X'.isUpper = true ∧
      4 < (ofVariable "GetX_0123456789abcdefABCDEF0123456789".toList false false).length ∧
      ofMethod "K2_GetX_0123456789abcdefABCDEF0123456789".toList true =
        ofMethod "GetX_0123456789abcdefABCDEF0123456789".toList true ∧
      ∃ r, r ≠ [] ∧ ofMethod "GetX_0123456789abcdefABCDEF0123456789".toList false =
          "get_".toList ++ r ∧
        ofMethod "SetX_0123456789abcdefABCDEF0123456789".toList false = r ++ "_set".toList ∧
        ofMethod "GetX_0123456789abcdefABCDEF0123456789".toList true = r ++ ['?'] := by
  have hupper : 'X'.isUpper = true := by decide
  have hlong :
      4 < (ofVariable "GetX_0123456789abcdefABCDEF0123456789".toList false false).length := by
    decide +kernel
  obtain ⟨hnames, hkismet, -⟩ :=
    ofMethod_paired hupper "_0123456789abcdefABCDEF0123456789".toList hlong
  exact ⟨hupper, hlong, hkismet true, hnames⟩

end ScriptBindings.Name

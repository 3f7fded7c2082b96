import ScriptBindings.Proofs.PairedNames

/-!
# Marks of names

A host puts a `b` before the name of a truth value. A script puts an `@` before the name of a
member, and a question mark behind the name of a truth value. These marks leave the name between
them alone, although a hash is looked for in texts of more than 33 characters only and the first two
marks make a text longer. A text that ends in a hash is longer than 33 characters anyway, unless it
begins with the underscore of the hash. No spelling begins so, and no host name with a capital
letter at its beginning.

## Key results

- `IsUnhashed.cons`: a character before a name does not change what its hash is
- `stem_booleanMark`, `ofVariable_booleanMark`: the mark of a truth value does not show in the
  script name
- `dropSpelledHash_member`: the `@` of a member does not change what the hash of its name is
- `ofVariable_forms`: the names of members, of variables and of truth values
-/

namespace ScriptBindings.Name

open Text

variable {name base rest : List Char} {c d : Char}

/-! ## Characters before a name -/

/-- A name loses the same hash with a character before it as without. -/
theorem IsUnhashed.cons (h : IsUnhashed name base) (hd : d ≠ '_')
    (hstart : name.head? ≠ some '_') : IsUnhashed (d :: name) (d :: base) := by
  cases h with
  | @hash before digits final hlong heq htail =>
    -- the hash keeps its place, one character further on
    have hparts : d :: name = (d :: before) ++ '_' :: digits ++ final := by
      rw [heq, List.cons_append, List.cons_append]
    show IsUnhashed (d :: name) (d :: before ++ final)
    exact .hash (Nat.lt_succ_of_lt hlong) hparts htail
  | plain hno =>
    -- a hash of the longer name does not begin at its first character, so the shorter name has it
    refine .plain fun hboth => hno ?_
    have hends := endsInHash_of_cons hd hboth.2
    exact ⟨hends.lt_length hstart, hends⟩

/-- A name keeps its first character without its hash, unless that is an underscore. -/
theorem IsUnhashed.head?_eq (h : IsUnhashed name base) (hstart : name.head? ≠ some '_') :
    base.head? = name.head? := by
  cases h with
  | @hash before digits final _ heq _ =>
    subst heq
    cases before with
    -- a hash at the beginning is the case that is excluded
    | nil => exact absurd rfl hstart
    | cons x before => rfl
  | plain _ => rfl

/-! ## The mark of a truth value in a host name -/

/-- The stem of a name in title case is the same with the mark of a truth value before it. -/
theorem stem_booleanMark (hc : isUppercase c = true) (hbase : IsUnhashed (c :: rest) base)
    (hlong : 2 ≤ base.length) : stem ('b' :: c :: rest) = stem (c :: rest) := by
  -- a capital letter is neither an underscore nor a small `b`
  have hne : ∀ x, isUppercase x = false → c ≠ x := by
    rintro x hx rfl
    exact Bool.false_ne_true (hx.symm.trans hc)
  have hstart : (c :: rest).head? ≠ some '_' := by
    simpa using hne '_' (by decide +kernel)
  have hmarked := hbase.cons (d := 'b') (by decide) hstart
  have hhead := hbase.head?_eq hstart
  -- with and without the mark the same hash is dropped; what is left still has its capital letter
  rw [hmarked.stem_eq, hbase.stem_eq]
  match base, hlong, hhead with
  | x :: y :: ys, _, hhead =>
    obtain rfl : x = c := by simpa using hhead
    -- behind the `b` stands a capital letter, so it is dropped
    have hboolean : isBoolean ('b' :: x :: y :: ys) = true := by
      rw [isBoolean_cons, hc]
      rfl
    -- without it the name begins with a capital letter and has no mark to drop
    have hfirst : [x].head? ≠ some 'b' := by simpa using hne 'b' (by decide +kernel)
    have hplain : isBoolean ([x] ++ y :: ys) = false :=
      isBoolean_of_head? hfirst (List.cons_ne_nil x []) (y :: ys)
    rw [List.singleton_append] at hplain
    rw [dropBooleanMark, hboolean, dropBooleanMark, hplain]
    rfl

/-- The `b` before a name in title case does not show in the script name, whatever other marks that
    has. Without its hash the name must have at least two characters, so that the `b` is a mark. -/
theorem ofVariable_booleanMark (hc : isUppercase c = true) (hbase : IsUnhashed (c :: rest) base)
    (hlong : 2 ≤ base.length) (question member : Bool) :
    ofVariable ('b' :: c :: rest) question member = ofVariable (c :: rest) question member := by
  have hmarked : 'b' :: c :: rest ≠ [] := List.cons_ne_nil _ _
  have hplain : c :: rest ≠ [] := List.cons_ne_nil _ _
  -- a name shows in its script name by its stem only
  rw [ofVariable, if_neg hmarked, ofVariable, if_neg hplain, spelling, spelling,
    stem_booleanMark hc hbase hlong]

/-- A name with a hash and a line feed behind it. Without the hash two characters are left, one of
    them the line feed. -/
theorem ofVariable_booleanMark_lineFeed :
    isUppercase 'X' = true ∧
      IsUnhashed ('X' :: "_0123456789abcdefABCDEF0123456789\n".toList) "X\n".toList ∧
      2 ≤ "X\n".toList.length ∧
      ofVariable ('b' :: 'X' :: "_0123456789abcdefABCDEF0123456789\n".toList) true true =
        ofVariable ('X' :: "_0123456789abcdefABCDEF0123456789\n".toList) true true := by
  have hupper : isUppercase 'X' = true := by decide +kernel
  have htail : IsHashTail isHexDigit "0123456789abcdefABCDEF0123456789".toList "\n".toList :=
    ⟨rfl, List.all_eq_true.mp (by decide), .inr rfl⟩
  have hparts : 'X' :: "_0123456789abcdefABCDEF0123456789\n".toList =
      "X".toList ++ '_' :: "0123456789abcdefABCDEF0123456789".toList ++ "\n".toList := rfl
  have hbase : IsUnhashed ('X' :: "_0123456789abcdefABCDEF0123456789\n".toList)
      ("X".toList ++ "\n".toList) := .hash (by decide) hparts htail
  have hlong : 2 ≤ "X\n".toList.length := by decide
  exact ⟨hupper, hbase, hlong, ofVariable_booleanMark hupper hbase hlong true true⟩

/-! ## The marks of script names -/

/-- The `@` before the name of a member does not change what its hash is. -/
theorem dropSpelledHash_member (name : List Char) :
    dropSpelledHash ('@' :: spelling name) = '@' :: dropSpelledHash (spelling name) := by
  -- an `@` is neither a hexadecimal digit nor the underscore of a hash
  have hat : StandsInNoHash isSmallHexDigit '@' := ⟨by decide, by decide, by decide⟩
  exact dropSpelledHash_cons hat ((isSpelled_spelling name).head?_ne (by decide))

/-- The name of a member is its spelling with an `@` before it and without the hash at its end. -/
theorem ofVariable_member (h : name ≠ []) :
    ofVariable name false true = '@' :: dropSpelledHash (spelling name) := by
  rw [ofVariable, if_neg h, placed, if_pos rfl, dropSpelledHash_member]
  simp

/-- The question mark is put behind a name that is finished. -/
theorem ofVariable_question (h : name ≠ []) (question member : Bool) :
    ofVariable name question member =
      ofVariable name false member ++ if question then ['?'] else [] := by
  simp [ofVariable, h, placed]

/-- A name has no question mark but that one. -/
theorem question_not_mem_ofVariable (h : name ≠ []) (member : Bool) :
    '?' ∉ ofVariable name false member := by
  cases member with
  | false => exact (isSpelled_letters name).isPlain.not_mem.2.2
  | true =>
    -- an `@` is no question mark, and the spelling has none
    have hspelling : '?' ∉ spelling name := (isSpelled_spelling name).isPlain.not_mem.2.2
    rw [ofVariable_member h, List.mem_cons, not_or]
    exact ⟨by decide, fun hmem => hspelling ((dropSpelledHash_isPrefix _).subset hmem)⟩

/-- The name of a member is that of the variable with an `@` before it, unless the variable is
    called by a reserved word, which needs no escape behind an `@`. The name of a truth value is
    that of any other value with a question mark behind it, and has no other one. -/
theorem ofVariable_forms (h : name ≠ []) (question : Bool) :
    (ofVariable name question true = '@' :: ofVariable name question false ∨
      ∃ k ∈ reservedWords,
        ofVariable name question false = k ++ ['_'] ++ (if question then ['?'] else []) ∧
        ofVariable name question true = '@' :: k ++ if question then ['?'] else []) ∧
    ∀ member, ofVariable name true member = ofVariable name false member ++ ['?'] ∧
      '?' ∉ ofVariable name false member := by
  refine ⟨?_, fun member => ⟨ofVariable_question h true member,
    question_not_mem_ofVariable h member⟩⟩
  -- the question mark is put behind both names, so it is enough to compare the rest
  rw [ofVariable_question h question true, ofVariable_question h question false,
    ofVariable_member h, ofVariable_plain]
  by_cases hreserved : spelling name ∈ reservedWords
  · -- a reserved word is too short for a hash, with its escape and without
    have hshort := length_lt_of_mem_reservedWords _ hreserved
    have hkept : dropSpelledHash (spelling name) = spelling name :=
      dropSpelledHash_of_not fun hboth => absurd hboth.1 (by omega)
    refine .inr ⟨spelling name, hreserved, ?_, by rw [hkept]⟩
    rw [← isFinished_iff.mp (.reserved hreserved)]
  · left
    rw [escapeReserved, if_neg hreserved, List.cons_append]

/-- A truth value that is called by a reserved word, as a variable and as a member. -/
theorem ofVariable_forms_loop :
    "Loop".toList ≠ [] ∧
      (∃ k ∈ reservedWords, ofVariable "Loop".toList true false = k ++ ['_'] ++ ['?'] ∧
        ofVariable "Loop".toList true true = '@' :: k ++ ['?']) ∧
      ofVariable "Loop".toList true true = ofVariable "Loop".toList false true ++ ['?'] ∧
      '?' ∉ ofVariable "Loop".toList false true := by
  have hne : "Loop".toList ≠ [] := by decide
  have hescaped :
      ofVariable "Loop".toList true true ≠ '@' :: ofVariable "Loop".toList true false := by
    decide +kernel
  obtain ⟨hforms, hquestion⟩ := ofVariable_forms hne true
  exact ⟨hne, hforms.resolve_left hescaped, hquestion true⟩

end ScriptBindings.Name

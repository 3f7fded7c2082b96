import Mathlib.Data.List.Chain
import ScriptBindings.Proofs.HashSuffixes

/-!
# The form of spellings

A spelling is made of letters, which come from the small spellings of the host name, and of
underscores, none of which stands at the beginning or behind another one. The escape of a reserved
word and the removal of a hash keep this form.

## Key results

- `IsSpelled`: the form of a spelling, by what stands before it
- `isSpelled_spellFrom`: the scan of a host name gives a text of this form
- `ofVariable_plain`: a name without question mark and `@` in its three steps
- `isSpelled_ofVariable`, `forall_mem_ofVariable`: such a name has the form of a spelling, and its
  characters have what underscores and small spellings have in common
-/

namespace ScriptBindings

/-- Every character has a small spelling. -/
theorem Text.lowercase_ne_nil (c : Char) : lowercase c ≠ [] := by
  unfold lowercase
  split
  · exact List.cons_ne_nil _ _
  · split
    · exact List.cons_ne_nil _ _
    · exact List.cons_ne_nil _ _

namespace Name

open Text

/-! ## Stems -/

variable {name : List Char} {c : Char}

/-- A name without its hash has no other characters. -/
theorem mem_of_mem_dropHash {isDigit : Char → Bool} (h : c ∈ dropHash isDigit name) :
    c ∈ name := by
  unfold dropHash at h
  split at h
  · -- what is kept comes from before the hash, or is the line feed behind it
    rw [← withoutFinalLineFeed_append name]
    rcases List.mem_append.mp h with hbody | hfeed
    · exact List.mem_append_left _ (List.mem_of_mem_take hbody)
    · exact List.mem_append_right _ hfeed
  · exact h

/-- Without the mark of a truth value a name is a part of itself. -/
theorem dropBooleanMark_sublist (s : List Char) : (dropBooleanMark s).Sublist s := by
  unfold dropBooleanMark
  split
  · exact List.drop_sublist _ _
  · exact List.Sublist.refl _

/-- The stem of a name has no other characters. -/
theorem mem_of_mem_stem (h : c ∈ stem name) : c ∈ name := by
  have hhash := (dropBooleanMark_sublist _).subset h
  split at hhash
  · exact mem_of_mem_dropHash hhash
  · exact hhash

/-! ## Letters and underscores -/

/-- The text is made of characters with the property `P` and of underscores. No underscore stands
    behind another one, and none at the beginning if there is a gap before the text. -/
inductive IsSpelled (P : Char → Prop) : (gap : Bool) → List Char → Prop
  | nil {gap} : IsSpelled P gap []
  | underscore {cs} : IsSpelled P true cs → IsSpelled P false ('_' :: cs)
  | letter {gap c cs} : P c → IsSpelled P false cs → IsSpelled P gap (c :: cs)

variable {P : Char → Prop} {gap : Bool} {s : List Char}

/-- Two underscores stand side by side only where they are neighbours. -/
theorem not_doubled_of_isChain (h : s.IsChain fun c d => c = '_' → d ≠ '_') :
    ¬ ['_', '_'] <:+: s := by
  rintro ⟨before, after, rfl⟩
  have hsplit : before ++ ['_', '_'] ++ after = before ++ '_' :: '_' :: after := by simp
  exact List.isChain_iff_forall_rel_of_append_cons_cons.mp h hsplit rfl rfl

namespace IsSpelled

/-- A spelling has no other characters. -/
theorem forall_mem (h : IsSpelled P gap s) : ∀ c ∈ s, c = '_' ∨ P c := by
  -- induction on the spelling, one character at a time
  induction h with
  | nil => exact fun c hc => nomatch hc
  | underscore _ ih => exact List.forall_mem_cons.mpr ⟨.inl rfl, ih⟩
  | letter hc _ ih => exact List.forall_mem_cons.mpr ⟨.inr hc, ih⟩

/-- Letters may stand anywhere. -/
theorem letters {ds cs : List Char} (hne : ds ≠ []) (hds : ∀ d ∈ ds, P d)
    (hcs : IsSpelled P false cs) : IsSpelled P gap (ds ++ cs) := by
  -- induction on the letters, behind the first of which there is no gap
  induction ds generalizing gap with
  | nil => exact absurd rfl hne
  | cons d ds ih =>
    obtain ⟨hd, hrest⟩ := List.forall_mem_cons.mp hds
    refine .letter hd ?_
    by_cases hlast : ds = []
    · rw [hlast]
      exact hcs
    · exact ih hlast hrest

/-- The beginning of a spelling has the form of one. -/
theorem of_isPrefix {t : List Char} (h : IsSpelled P gap s) (hbeginning : t <+: s) :
    IsSpelled P gap t := by
  -- induction on the spelling: its beginning is empty, or begins with the same character
  induction h generalizing t with
  | nil =>
    rw [List.prefix_nil.mp hbeginning]
    exact .nil
  | underscore _ ih =>
    rcases List.prefix_cons_iff.mp hbeginning with rfl | ⟨t', rfl, ht'⟩
    · exact .nil
    · exact .underscore (ih ht')
  | letter hc _ ih =>
    rcases List.prefix_cons_iff.mp hbeginning with rfl | ⟨t', rfl, ht'⟩
    · exact .nil
    · exact .letter hc (ih ht')

/-- What is spelled behind an underscore, or at the beginning, begins with a letter. -/
theorem head?_ne (h : IsSpelled P true s) (hP : ¬ P '_') : s.head? ≠ some '_' := by
  cases h with
  | nil => simp
  | letter hc _ =>
    intro hhead
    obtain rfl := Option.some.inj hhead
    exact hP hc

/-- What stands behind an underscore of a spelling is spelled as at the beginning. -/
theorem behind_underscore (before : List Char) {t : List Char}
    (h : IsSpelled P gap (before ++ '_' :: t)) (hP : ¬ P '_') : IsSpelled P true t := by
  -- induction on what stands before the underscore
  induction before generalizing gap with
  | nil =>
    cases h with
    | underscore ht => exact ht
    | letter hc _ => exact absurd hc hP
  | cons c before ih =>
    cases h with
    | underscore ht => exact ih ht
    | letter _ ht => exact ih ht

/-- Of two neighbours in a spelling one is a letter. -/
theorem isChain (h : IsSpelled P gap s) (hP : ¬ P '_') :
    s.IsChain fun c d => c = '_' → d ≠ '_' := by
  -- an underscore is followed by a spelling that does not begin with one
  induction h with
  | nil => exact .nil
  | underscore hcs ih =>
    refine List.isChain_cons.mpr ⟨fun d hd _ => ?_, ih⟩
    rintro rfl
    exact hcs.head?_ne hP hd
  | letter hc _ ih =>
    refine List.isChain_cons.mpr ⟨fun d _ hgap => ?_, ih⟩
    rw [hgap] at hc
    exact absurd hc hP

/-- No two underscores stand side by side in a spelling. -/
theorem not_doubled (h : IsSpelled P gap s) (hP : ¬ P '_') : ¬ ['_', '_'] <:+: s :=
  not_doubled_of_isChain (h.isChain hP)

/-- An underscore may follow a letter. -/
theorem concat_underscore (h : IsSpelled P gap s) (hstart : gap = true → s ≠ [])
    (hlast : s.getLast? ≠ some '_') : IsSpelled P gap (s ++ ['_']) := by
  -- induction on the spelling, to whose end the underscore is put
  induction h with
  | @nil gap =>
    cases gap with
    | true => exact absurd rfl (hstart rfl)
    | false => exact .underscore .nil
  | @underscore cs _ ih =>
    have hne : cs ≠ [] := by
      rintro rfl
      exact hlast rfl
    rw [List.getLast?_cons_of_ne_nil hne] at hlast
    exact .underscore (ih (fun _ => hne) hlast)
  | @letter _ c cs hc _ ih =>
    refine .letter hc (ih (fun h => nomatch h) fun hend => hlast ?_)
    rw [List.getLast?_cons, hend]
    rfl

end IsSpelled

/-- The scan of a host name gives a spelling. -/
theorem isSpelled_spellFrom {upper : Bool}
    (h : ∀ c ∈ name, c ≠ '?' → isSeparator c = false → ∀ d ∈ lowercase c, P d) :
    IsSpelled P gap (spellFrom upper gap name) := by
  -- induction on the name, with the state of the scan: the case before, and whether there is a gap
  induction name generalizing upper gap with
  | nil => exact .nil
  | cons c cs ih =>
    have hrest : ∀ {u g : Bool}, IsSpelled P g (spellFrom u g cs) :=
      ih fun x hx => h x (List.mem_cons_of_mem _ hx)
    rw [spellFrom]
    split
    · exact hrest
    · rename_i hquestion
      split
      · -- a separator makes an underscore unless there is a gap already
        cases gap with
        | true => exact hrest
        | false => exact .underscore hrest
      · rename_i hseparator
        have hword : ∀ {g : Bool},
            IsSpelled P g (lowercase c ++ spellFrom (isUpperLike c) false cs) :=
          .letters (lowercase_ne_nil c)
            (h c List.mem_cons_self hquestion (by simpa using hseparator)) hrest
        simp only
        split
        · -- a word begins here, which needs an underscore as there is no gap yet
          rename_i hboundary
          obtain rfl : gap = false := by
            simp only [Bool.and_eq_true, Bool.not_eq_true'] at hboundary
            exact hboundary.2
          exact .underscore hword
        · exact hword

/-- No reserved word is empty or ends in an underscore. -/
theorem reservedWords_last :
    ∀ w ∈ reservedWords, w ≠ [] ∧ w.getLast? ≠ some '_' := by decide

/-- The escape of a reserved word is a spelling. -/
theorem isSpelled_escapeReserved (h : IsSpelled P gap s) :
    IsSpelled P gap (escapeReserved s) := by
  unfold escapeReserved
  split
  · -- a reserved word ends in a letter, so an underscore can be put behind it
    rename_i hreserved
    obtain ⟨hne, hlast⟩ := reservedWords_last s hreserved
    exact h.concat_underscore (fun _ => hne) hlast
  · exact h

/-- A spelling without its hash is the beginning of that spelling. -/
theorem dropSpelledHash_isPrefix (s : List Char) : dropSpelledHash s <+: s := by
  unfold dropSpelledHash
  split
  · exact List.take_prefix _ _
  · exact List.prefix_refl _

/-- A name without question mark and `@` is spelled, kept apart from the reserved words, and freed
    of a hash. -/
theorem ofVariable_plain (name : List Char) :
    ofVariable name false false = dropSpelledHash (escapeReserved (spelling name)) := by
  unfold ofVariable
  split
  · rename_i hempty
    rw [hempty]
    decide
  · simp [placed]

/-- A name without question mark and `@` is a spelling. -/
theorem isSpelled_ofVariable
    (h : ∀ c ∈ name, c ≠ '?' → isSeparator c = false → ∀ d ∈ lowercase c, P d) :
    IsSpelled P true (ofVariable name false false) := by
  rw [ofVariable_plain]
  -- stem, escape and removal of the hash, each of which leaves a spelling
  have hspelling : IsSpelled P true (spelling name) :=
    isSpelled_spellFrom fun c hc => h c (mem_of_mem_stem hc)
  exact (isSpelled_escapeReserved hspelling).of_isPrefix (dropSpelledHash_isPrefix _)

/-- What holds of underscores and of all small spellings holds of a name without question mark and
    `@`. -/
theorem forall_mem_ofVariable (hgap : P '_')
    (h : ∀ c ∈ name, c ≠ '?' → isSeparator c = false → ∀ d ∈ lowercase c, P d) :
    ∀ d ∈ ofVariable name false false, P d := by
  intro d hd
  rcases (isSpelled_ofVariable h).forall_mem d hd with rfl | hd'
  · exact hgap
  · exact hd'

end Name

end ScriptBindings

import ScriptBindings.Model.ScriptName
import ScriptBindings.Proofs.JoinedLetters

/-!
# Method names

A method name is made from the spelling of the host name: its `k2_` is dropped, then the `get_` of a
question or the `set_` of a setter, and a question mark or `_set` is put behind it. It keeps the
characters of the spelling, but two of its rules are not looked at again. What stands behind a `k2_`
may be a reserved word, and what a setter sets may end in an underscore.

## Key results

- `ofSpelled_getter`, `ofSpelled_other`: the method name of a spelling
- `ofSpelled_cases`: the two forms of a method name, with and without a question mark
- `ofMethod_eq`: it is spelled like the host name, or has a question mark behind that
- `ofSpelled_mem_reservedWords_iff`: when a method name is a reserved word
- `actionOf_doubled_iff`: when it has two underscores side by side
- `ofMethod_rules`: which rules of script names a method name keeps, and where it breaks the others
-/

namespace ScriptBindings

namespace Name

open Text

variable {P : Char → Prop} {s base target : List Char} {called returns : Bool}

/-! ## Beginnings -/

/-- A name loses its `k2_` or nothing. -/
theorem dropKismetMark_cases (s : List Char) :
    dropKismetMark s = s ∨ s = "k2_".toList ++ dropKismetMark s := by
  unfold dropKismetMark
  split
  · -- only the first branch of the test keeps the `k2_`: a digit stands behind it there
    split
    · exact .inl rfl
    · exact .inr rfl
  · exact .inl rfl

/-- A `k2_` that no digit follows is dropped. -/
theorem dropKismetMark_mark {c : Char} (h : isDigit c = false) (cs : List Char) :
    dropKismetMark ("k2_".toList ++ c :: cs) = c :: cs :=
  if_neg (Bool.eq_false_iff.mp h)

/-- A getter gets what follows its `get_` and does not begin with a digit. -/
theorem getterTarget?_eq_some :
    getterTarget? base = some target ↔
      base = "get_".toList ++ target ∧ ∃ c cs, target = c :: cs ∧ isDigit c = false := by
  constructor
  · intro h
    unfold getterTarget? at h
    split at h
    · rename_i c cs
      split at h
      · simp at h
      · rename_i hdigit
        obtain rfl := Option.some.inj h
        exact ⟨rfl, c, cs, rfl, by simpa using hdigit⟩
    · simp at h
  · rintro ⟨rfl, c, cs, rfl, hdigit⟩
    exact if_neg (Bool.eq_false_iff.mp hdigit)

/-- A setter sets what follows its `set_` and does not begin with a digit. -/
theorem setterTarget?_eq_some :
    setterTarget? base = some target ↔
      base = "set_".toList ++ target ∧ ∃ c cs, target = c :: cs ∧ isDigit c = false := by
  constructor
  · intro h
    unfold setterTarget? at h
    split at h
    · rename_i c cs
      split at h
      · simp at h
      · rename_i hdigit
        obtain rfl := Option.some.inj h
        exact ⟨rfl, c, cs, rfl, by simpa using hdigit⟩
    · simp at h
  · rintro ⟨rfl, c, cs, rfl, hdigit⟩
    exact if_neg (Bool.eq_false_iff.mp hdigit)

/-- A getter is no setter. -/
theorem setterTarget?_of_getter (h : getterTarget? base = some target) :
    setterTarget? base = none := by
  obtain ⟨rfl, -⟩ := getterTarget?_eq_some.mp h
  rfl

/-- A name without its `k2_` is the end of that name. -/
theorem dropKismetMark_suffix (s : List Char) : dropKismetMark s <:+ s := by
  rcases dropKismetMark_cases s with hkept | hdropped
  · exact ⟨[], hkept⟩
  · exact ⟨_, hdropped.symm⟩

/-- What a getter gets is the end of its name. -/
theorem getterTarget?_suffix (h : getterTarget? base = some target) : target <:+ base :=
  ⟨_, (getterTarget?_eq_some.mp h).1.symm⟩

/-- What a setter sets is the end of its name. -/
theorem setterTarget?_suffix (h : setterTarget? base = some target) : target <:+ base :=
  ⟨_, (setterTarget?_eq_some.mp h).1.symm⟩

/-- The spelling of a name without its `k2_` begins like a spelling. -/
theorem isSpelled_dropKismetMark (h : IsSpelled P true s) (hP : ¬ P '_') :
    IsSpelled P true (dropKismetMark s) := by
  rcases dropKismetMark_cases s with hkept | hdropped
  · -- the mark ends in an underscore, and a spelling begins anew behind one
    rw [hkept]
    exact h
  · rw [hdropped] at h
    exact h.behind_underscore ['k', '2'] hP

/-! ## The name of a spelling -/

/-- What a function does, told by its name without the `k2_`: a setter goes by what it sets. -/
def actionOf (base : List Char) : List Char :=
  match setterTarget? base with
  | some target => target ++ "_set".toList
  | none => base

/-- A getter of a truth value asks for what it gets, and any other getter keeps its name. -/
theorem ofSpelled_getter (h : getterTarget? (dropKismetMark s) = some target)
    (called returns : Bool) :
    ofSpelled s called returns =
      if returns then target ++ ['?'] else actionOf (dropKismetMark s) := by
  -- a setter is looked for in the other case only, so `actionOf` finds none here
  simp only [ofSpelled, h, actionOf, setterTarget?_of_getter h]

/-- Any other function goes by what it does, with a question mark if it returns a truth value and is
    called like one. -/
theorem ofSpelled_other (h : getterTarget? (dropKismetMark s) = none) (called returns : Bool) :
    ofSpelled s called returns =
      if returns && (called || isPredicate (actionOf (dropKismetMark s))) then
        actionOf (dropKismetMark s) ++ ['?']
      else actionOf (dropKismetMark s) := by
  simp only [ofSpelled, h]
  rfl

/-- The name of a method is what the function does, or ends in a question mark. Then the question is
    what a getter gets, or else what the function does. -/
theorem ofSpelled_cases (s : List Char) (called returns : Bool) :
    ofSpelled s called returns = actionOf (dropKismetMark s) ∨
      ∃ asked, ofSpelled s called returns = asked ++ ['?'] ∧
        (getterTarget? (dropKismetMark s) = some asked ∨ asked = actionOf (dropKismetMark s)) := by
  cases hgetter : getterTarget? (dropKismetMark s) with
  | some target =>
    rw [ofSpelled_getter hgetter]
    cases returns with
    | true => exact .inr ⟨target, rfl, .inl rfl⟩
    | false => exact .inl rfl
  | none =>
    rw [ofSpelled_other hgetter]
    split
    · exact .inr ⟨_, rfl, .inr rfl⟩
    · exact .inl rfl

/-- What holds of what the function does, and of what a getter gets, holds of the method name
    without its question mark. -/
theorem ofSpelled_unmarked {Q : List Char → Prop} (haction : Q (actionOf (dropKismetMark s)))
    (hgetter : ∀ target, getterTarget? (dropKismetMark s) = some target → Q target) :
    ∃ plain, Q plain ∧
      (ofSpelled s called returns = plain ∨ ofSpelled s called returns = plain ++ ['?']) := by
  -- the question of a getter is about its target, any other about the action
  rcases ofSpelled_cases s called returns with hplain | ⟨asked, hasked, hgot | rfl⟩
  · exact ⟨_, haction, .inl hplain⟩
  · exact ⟨asked, hgetter asked hgot, .inr hasked⟩
  · exact ⟨_, haction, .inr hasked⟩

/-! ## Characters -/

/-- What holds of the characters of a name and of `_set` holds of those of what the function
    does. -/
theorem forall_mem_actionOf (hset : ∀ d ∈ "_set".toList, P d) (h : ∀ d ∈ base, P d) :
    ∀ d ∈ actionOf base, P d := by
  unfold actionOf
  split
  · rename_i target hsetter
    have htarget : ∀ d ∈ target, P d := fun d hd => h d ((setterTarget?_suffix hsetter).subset hd)
    exact List.forall_mem_append.mpr ⟨htarget, hset⟩
  · exact h

/-- A method name is a spelling of the host name, or one with a question mark behind it. What holds
    of underscores, of `set` and of all small spellings holds of its characters. -/
theorem ofMethod_eq (name : List Char) (returnsBoolean : Bool) (hset : ∀ d ∈ "_set".toList, P d)
    (h : ∀ c ∈ name, c ≠ '?' → isSeparator c = false → ∀ d ∈ lowercase c, P d) :
    ∃ plain : List Char, (∀ d ∈ plain, P d) ∧
      (ofMethod name returnsBoolean = plain ∨ ofMethod name returnsBoolean = plain ++ ['?']) := by
  have hbase : ∀ d ∈ dropKismetMark (ofVariable name false false), P d := fun d hd =>
    forall_mem_ofVariable (hset '_' (by decide)) h d ((dropKismetMark_suffix _).subset hd)
  -- the target and the action are both cut out of the spelling
  refine ofSpelled_unmarked (forall_mem_actionOf hset hbase) fun target hgetter d hd => ?_
  exact hbase d ((getterTarget?_suffix hgetter).subset hd)

/-- The text is made of letters and underscores and does not begin with an underscore. -/
structure IsPlain (s : List Char) : Prop where
  letters : ∀ c ∈ s, c = '_' ∨ isLetter c = true
  start : s.head? ≠ some '_'

/-- A spelling is such a text. -/
theorem IsSpelled.isPlain (h : IsSpelled (isLetter · = true) true s) : IsPlain s :=
  ⟨h.forall_mem, h.head?_ne (by decide)⟩

/-- What a getter gets is spelled like a name. -/
theorem isSpelled_getterTarget (h : IsSpelled (isLetter · = true) true base)
    (hgetter : getterTarget? base = some target) : IsSpelled (isLetter · = true) true target := by
  obtain ⟨rfl, -⟩ := getterTarget?_eq_some.mp hgetter
  exact h.behind_underscore ['g', 'e', 't'] (by decide)

/-- What a setter sets is spelled like a name. -/
theorem isSpelled_setterTarget (h : IsSpelled (isLetter · = true) true base)
    (hsetter : setterTarget? base = some target) : IsSpelled (isLetter · = true) true target := by
  obtain ⟨rfl, -⟩ := setterTarget?_eq_some.mp hsetter
  exact h.behind_underscore ['s', 'e', 't'] (by decide)

/-- What a function does is made of letters and underscores. -/
theorem isPlain_actionOf (h : IsSpelled (isLetter · = true) true base) :
    IsPlain (actionOf base) := by
  -- `_set` adds an underscore and letters
  have hset : ∀ d ∈ "_set".toList, d = '_' ∨ isLetter d = true := by simp; decide
  refine ⟨forall_mem_actionOf hset h.isPlain.letters, ?_⟩
  unfold actionOf
  split
  · rename_i target hsetter
    have hstart := (isSpelled_setterTarget h hsetter).isPlain.start
    -- the target is not empty, so the name still begins where the target does
    obtain ⟨-, c, cs, rfl, -⟩ := setterTarget?_eq_some.mp hsetter
    exact hstart
  · exact h.isPlain.start

/-- A method name has one question mark at its end or none, and no blanks and colons, and does not
    begin with an underscore. -/
theorem ofSpelled_isPlain (h : IsSpelled (isLetter · = true) true s) (called returns : Bool) :
    ∃ plain, IsPlain plain ∧ (ofSpelled s called returns = plain ∨
      ofSpelled s called returns = plain ++ ['?']) := by
  have hbase := isSpelled_dropKismetMark h (by decide)
  exact ofSpelled_unmarked (isPlain_actionOf hbase) fun _ hgetter =>
    (isSpelled_getterTarget hbase hgetter).isPlain

/-- Such a text has no blanks, colons and question marks. -/
theorem IsPlain.not_mem (h : IsPlain s) : ' ' ∉ s ∧ ':' ∉ s ∧ '?' ∉ s :=
  ⟨fun hc => absurd (h.letters _ hc) (by decide), fun hc => absurd (h.letters _ hc) (by decide),
    fun hc => absurd (h.letters _ hc) (by decide)⟩

/-- A method name has no blanks and colons, does not begin with an underscore, and has a question
    mark at its end at most. -/
theorem ofMethod_characters (name : List Char) (returnsBoolean : Bool) :
    (∀ c ∈ ofMethod name returnsBoolean, c ≠ ' ' ∧ c ≠ ':') ∧
      (ofMethod name returnsBoolean).head? ≠ some '_' ∧
      '?' ∉ (ofMethod name returnsBoolean).dropLast := by
  obtain ⟨plain, hplain, hmethod⟩ :=
    ofSpelled_isPlain (isSpelled_letters name) (isBoolean name) returnsBoolean
  obtain ⟨hblank, hcolon, hquestion⟩ := hplain.not_mem
  have hcharacters : ∀ c ∈ plain, c ≠ ' ' ∧ c ≠ ':' := fun c hc =>
    ⟨fun heq => hblank (heq ▸ hc), fun heq => hcolon (heq ▸ hc)⟩
  unfold ofMethod
  rcases hmethod with hmethod | hmethod
  · rw [hmethod]
    exact ⟨hcharacters, hplain.start, fun hc => hquestion (List.dropLast_subset _ hc)⟩
  · rw [hmethod, List.dropLast_concat]
    refine ⟨List.forall_mem_append.mpr ⟨hcharacters, by simp⟩, ?_, hquestion⟩
    -- an empty name would begin with the question mark
    cases plain with
    | nil => simp
    | cons c cs => exact hplain.start

/-! ## Reserved words -/

/-- What a method name is made with does nothing to a reserved word. -/
private theorem parts_of_reserved : ∀ w ∈ reservedWords,
    getterTarget? w = none ∧ setterTarget? w = none ∧ isPredicate w = false ∧
      dropKismetMark w = w ∧ dropKismetMark ("k2_".toList ++ w) = w := by decide +kernel

/-- No reserved word ends in a question mark or in `_set`. -/
private theorem end_of_reserved : ∀ w ∈ reservedWords,
    w.getLast? ≠ some '?' ∧ ¬ "_set".toList <:+ w := by decide +kernel

/-- What a function does is a reserved word only if the function is called so. -/
theorem actionOf_mem_reservedWords_iff : actionOf base ∈ reservedWords ↔ base ∈ reservedWords := by
  constructor
  · intro h
    unfold actionOf at h
    -- a setter keeps `_set` at its end, and no reserved word ends so
    split at h
    · exact absurd (List.suffix_append _ _) (end_of_reserved _ h).2
    · exact h
  · intro h
    simp only [actionOf, (parts_of_reserved base h).2.1, h]

/-- A method is called by a reserved word if and only if that is what stands behind the `k2_`, and
    no question mark is put behind it. -/
theorem ofSpelled_mem_reservedWords_iff :
    ofSpelled s called returns ∈ reservedWords ↔
      ¬ (returns = true ∧ called = true) ∧ dropKismetMark s ∈ reservedWords := by
  constructor
  · intro h
    rcases ofSpelled_cases s called returns with hplain | ⟨asked, hasked, -⟩
    · have hbase := actionOf_mem_reservedWords_iff.mp (hplain ▸ h)
      refine ⟨?_, hbase⟩
      -- a question for a truth value always ends in a question mark
      rintro ⟨rfl, rfl⟩
      rw [ofSpelled_other (parts_of_reserved _ hbase).1] at h
      exact absurd List.getLast?_concat (end_of_reserved _ h).1
    · rw [hasked] at h
      exact absurd List.getLast?_concat (end_of_reserved _ h).1
  · rintro ⟨hunasked, hbase⟩
    -- a reserved word is neither a getter nor a setter nor a predicate, so it is kept as it is
    obtain ⟨hgetter, hsetter, hpredicate, -⟩ := parts_of_reserved _ hbase
    have haction : actionOf (dropKismetMark s) = dropKismetMark s := by
      simp only [actionOf, hsetter]
    rw [ofSpelled_other hgetter, haction, hpredicate, Bool.or_false,
      if_neg (by simpa using hunasked)]
    exact hbase

/-- What stands behind the `k2_` is a reserved word if the whole name is one, or is one with a `k2_`
    before it. -/
theorem dropKismetMark_mem_reservedWords_iff :
    dropKismetMark s ∈ reservedWords ↔
      s ∈ reservedWords ∨ ∃ w ∈ reservedWords, s = "k2_".toList ++ w := by
  constructor
  · intro h
    rcases dropKismetMark_cases s with hkept | hdropped
    · exact .inl (hkept ▸ h)
    · exact .inr ⟨_, h, hdropped⟩
  · rintro (h | ⟨w, hw, rfl⟩)
    · rw [(parts_of_reserved s h).2.2.2.1]
      exact h
    · rw [(parts_of_reserved w hw).2.2.2.2]
      exact hw

/-! ## Underscores -/

/-- What a function does has two underscores side by side if and only if the function is a setter of
    something that ends in an underscore. -/
theorem actionOf_doubled_iff (h : IsSpelled (isLetter · = true) true base) :
    ['_', '_'] <:+: actionOf base ↔
      ∃ c cs, base = "set_".toList ++ c :: cs ++ ['_'] ∧ isDigit c = false := by
  have hno : ¬ isLetter '_' = true := by decide
  unfold actionOf
  split
  · rename_i target hsetter
    have htarget := isSpelled_setterTarget h hsetter
    obtain ⟨hbase, d, ds, hhead, hdigit⟩ := setterTarget?_eq_some.mp hsetter
    constructor
    · intro hpair
      have hlast : target.getLast? = some '_' := by
        by_contra hlast
        -- the underscore of `_set` then stands behind a letter
        have hchain : (target ++ "_set".toList).IsChain fun c d => c = '_' → d ≠ '_' := by
          refine List.isChain_append.mpr ⟨htarget.isChain hno, by simp, fun x hx y _ hgap => ?_⟩
          subst hgap
          -- which is the only place where two underscores could meet
          exact absurd hx hlast
        exact not_doubled_of_isChain hchain hpair
      obtain ⟨init, hinit⟩ := List.getLast?_eq_some_iff.mp hlast
      -- an underscore alone is no spelling
      have hne : init ≠ [] := by
        rintro rfl
        rw [hinit] at htarget
        exact htarget.head?_ne hno rfl
      obtain ⟨c, cs, rfl⟩ := List.exists_cons_of_ne_nil hne
      rw [hinit, List.cons_append] at hhead
      obtain ⟨rfl, -⟩ := List.cons.inj hhead
      exact ⟨c, cs, by rw [hbase, hinit, List.append_assoc], hdigit⟩
    · -- the underscore at the end of the target and that of `_set` are the pair
      rintro ⟨c, cs, hends, -⟩
      rw [hbase, List.append_assoc] at hends
      rw [List.append_cancel_left hends]
      exact ⟨c :: cs, "set".toList, by simp⟩
  · rename_i hsetter
    constructor
    · -- without `_set` nothing is put behind the spelling, which has no pair of its own
      exact fun hpair => absurd hpair (h.not_doubled hno)
    · rintro ⟨c, cs, hends, hdigit⟩
      rw [List.append_assoc] at hends
      rw [setterTarget?_eq_some.mpr ⟨hends, c, cs ++ ['_'], rfl, hdigit⟩] at hsetter
      simp at hsetter

/-- A question mark makes no pair of underscores. -/
private theorem doubled_question_iff : ['_', '_'] <:+: s ++ ['?'] ↔ ['_', '_'] <:+: s := by
  rw [List.infix_concat_iff, or_iff_right]
  -- the question mark would have to be the second underscore
  intro hend
  have hlast := hend.getLast (by simp)
  simp at hlast

/-- A method name has two underscores side by side if and only if what stands behind the `k2_` is
    the name of a setter of something that ends in an underscore. -/
theorem ofSpelled_doubled_iff (h : IsSpelled (isLetter · = true) true s) :
    ['_', '_'] <:+: ofSpelled s called returns ↔
      ∃ c cs, dropKismetMark s = "set_".toList ++ c :: cs ++ ['_'] ∧ isDigit c = false := by
  have hbase := isSpelled_dropKismetMark h (by decide)
  rcases ofSpelled_cases s called returns with hplain | ⟨asked, hasked, hgetter | rfl⟩
  · rw [hplain, actionOf_doubled_iff hbase]
  · rw [hasked, doubled_question_iff]
    constructor
    · -- what a getter gets is a spelling and has no pair
      exact fun hpair =>
        absurd hpair ((isSpelled_getterTarget hbase hgetter).not_doubled (by decide))
    · rintro ⟨c, cs, hends, -⟩
      -- a setter is no getter
      rw [hends] at hgetter
      exact absurd hgetter (by simp [getterTarget?])
  · rw [hasked, doubled_question_iff, actionOf_doubled_iff hbase]

/-- What stands behind the `k2_` is the name of a setter if the whole name is one, or is one with a
    `k2_` before it. -/
theorem dropKismetMark_eq_setter_iff {rest : List Char} :
    dropKismetMark s = "set_".toList ++ rest ↔
      s = "set_".toList ++ rest ∨ s = "k2_set_".toList ++ rest := by
  constructor
  · intro h
    rcases dropKismetMark_cases s with hkept | hdropped
    · exact .inl (hkept ▸ h)
    · -- the name begins with its `k2_`, and `set_` stands behind that
      rw [h] at hdropped
      exact .inr hdropped
  · rintro (rfl | rfl)
    · rfl
    · exact dropKismetMark_mark (by decide +kernel) _

/-! ## Rules -/

/-- A method name has no blanks and colons, does not begin with an underscore, and has a question
    mark at its end at most. It is a reserved word only if the name of the variable is one, or is
    one with a `k2_` before it, and two underscores stand side by side in it only where the name of
    the variable is that of a setter and ends in an underscore. -/
theorem ofMethod_rules (name : List Char) (returnsBoolean : Bool) :
    (∀ c ∈ ofMethod name returnsBoolean, c ≠ ' ' ∧ c ≠ ':') ∧
      (ofMethod name returnsBoolean).head? ≠ some '_' ∧
      '?' ∉ (ofMethod name returnsBoolean).dropLast ∧
      (ofMethod name returnsBoolean ∈ reservedWords ↔
        ¬ (returnsBoolean = true ∧ isBoolean name = true) ∧
          (ofVariable name false false ∈ reservedWords ∨
            ∃ w ∈ reservedWords, ofVariable name false false = "k2_".toList ++ w)) ∧
      (['_', '_'] <:+: ofMethod name returnsBoolean ↔
        ∃ c cs, isDigit c = false ∧
          (ofVariable name false false = "set_".toList ++ c :: cs ++ ['_'] ∨
            ofVariable name false false = "k2_set_".toList ++ c :: cs ++ ['_'])) := by
  obtain ⟨hblank, hstart, hquestion⟩ := ofMethod_characters name returnsBoolean
  refine ⟨hblank, hstart, hquestion, ?_, ?_⟩
  · unfold ofMethod
    rw [ofSpelled_mem_reservedWords_iff, dropKismetMark_mem_reservedWords_iff]
  · unfold ofMethod
    -- both sides speak of what stands behind the `k2_`
    rw [ofSpelled_doubled_iff (isSpelled_letters name)]
    simp only [List.append_assoc, dropKismetMark_eq_setter_iff, and_comm]

/-- A reserved word behind a `k2_`, and a setter with a blank at its end. -/
theorem ofMethod_breaks_rules :
    ofMethod "K2_If".toList false = "if".toList ∧ "if".toList ∈ reservedWords ∧
      ofMethod "Set Foo ".toList false = "foo__set".toList := by
  decide +kernel

end Name

/-! ## Host functions -/

/-- The method name of a host function that is called by a text. -/
theorem HostFunction.methodName_text {f : HostFunction} {name : String} (h : f.name = .text name) :
    f.methodName = .ok (String.ofList (Name.ofMethod name.toList f.returnsBoolean)) := by
  unfold HostFunction.methodName
  rw [h]
  by_cases hempty : name = ""
  · subst hempty
    rfl
  · -- only the empty name is not telling, and it is spelled the same either way
    have htelling : (Json.text name).isTelling = true := by
      simpa [Json.isTelling, Scalar.isTelling] using hempty
    have hvariable : Name.Given.asVariable (.text name) false false =
        .ok (.text (String.ofList (Name.ofVariable name.toList false false))) := by
      simp [Name.Given.asVariable, htelling]
    simp only [Name.Given.asMethod, hvariable, Name.Given.isBoolean, Name.ofMethod, bind,
      Except.bind, pure, Except.pure, String.toList_ofList]

end ScriptBindings

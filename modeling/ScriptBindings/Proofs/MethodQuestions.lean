import ScriptBindings.Proofs.MethodNames

/-!
# Questions

A function that returns a truth value may be named by a question, with a question mark behind its
name. That it returns one is not enough: the host name must have the form of a truth value, or the
function must be a getter or have the name of a predicate. A getter then asks for what it gets. All
other questions are the name that the function has anyway, with a question mark behind it.

## Key results

- `IsHeaded`: a text with a part before it that no digit follows
- `isUnmarked_iff`: names without their `k2_`
- `ofSpelled_unasked`, `ofSpelled_asked_getter`, `ofSpelled_asked_other`: a name and its question
- `ofMethod_question`: which names of methods become questions, and how
-/

namespace ScriptBindings.Name

open Text

variable {name s m target : List Char} {called : Bool}

/-! ## Parts before a name -/

/-- The text `s` is `part` with `rest` behind it, which is not empty and does not begin with a
    digit. -/
def IsHeaded (part s rest : List Char) : Prop :=
  s = part ++ rest ∧ ∃ c cs, rest = c :: cs ∧ isDigit c = false

/-- The text `m` is the name `s` without a `k2_` before it. -/
inductive IsUnmarked (s : List Char) : List Char → Prop
  | mark {rest} : IsHeaded "k2_".toList s rest → IsUnmarked s rest
  | plain : (∀ rest, ¬ IsHeaded "k2_".toList s rest) → IsUnmarked s s

/-- There is one text that is the name without its `k2_`. -/
theorem isUnmarked_iff : IsUnmarked s m ↔ m = dropKismetMark s := by
  -- the two forms are exclusive, and the function that drops the mark decides between them
  have hmark : ∀ rest, IsHeaded "k2_".toList s rest → dropKismetMark s = rest := by
    rintro rest ⟨rfl, c, cs, rfl, hdigit⟩
    exact dropKismetMark_mark hdigit cs
  have hplain : (∀ rest, ¬ IsHeaded "k2_".toList s rest) → dropKismetMark s = s := by
    intro hno
    unfold dropKismetMark
    split
    · -- the text begins with `k2_`; a digit behind it keeps the mark in place
      rename_i c cs
      split
      · rfl
      · rename_i hdigit
        exact absurd ⟨rfl, c, cs, rfl, by simpa using hdigit⟩ (hno (c :: cs))
    · rfl
  constructor
  · rintro (hheaded | hno)
    · exact (hmark m hheaded).symm
    · exact (hplain hno).symm
  · -- the function picks the form that fits
    rintro rfl
    by_cases h : ∃ rest, IsHeaded "k2_".toList s rest
    · obtain ⟨rest, hheaded⟩ := h
      rw [hmark rest hheaded]
      exact .mark hheaded
    · have hno := not_exists.mp h
      rw [hplain hno]
      exact .plain hno

/-- A name that begins like a predicate. -/
theorem isPredicate_iff :
    isPredicate s = true ↔ ∃ start ∈ ["is_", "has_", "can_"], start.toList <+: s := by
  simp [isPredicate]

/-! ## A name and its question -/

/-- A function that is not asked about a truth value goes by what it does. -/
theorem ofSpelled_unasked (s : List Char) (called : Bool) :
    ofSpelled s called false = actionOf (dropKismetMark s) := by
  -- without a question, getters go by what they do like all other functions
  cases hgetter : getterTarget? (dropKismetMark s) with
  | some target => rw [ofSpelled_getter hgetter, if_neg Bool.false_ne_true]
  | none => rw [ofSpelled_other hgetter, Bool.false_and, if_neg Bool.false_ne_true]

/-- A getter asks for what it gets. -/
theorem ofSpelled_asked_getter (h : getterTarget? (dropKismetMark s) = some target)
    (called : Bool) : ofSpelled s called true = target ++ ['?'] := by
  rw [ofSpelled_getter h, if_pos rfl]

/-- Any other function asks whether it is so, if it is called like a truth value or a predicate. -/
theorem ofSpelled_asked_other (h : getterTarget? (dropKismetMark s) = none) (called : Bool) :
    ofSpelled s called true =
      if called || isPredicate (ofSpelled s called false) then ofSpelled s called false ++ ['?']
      else ofSpelled s called false := by
  rw [ofSpelled_unasked, ofSpelled_other h, Bool.true_and]

/-- A setter goes by what it sets, whether it asks or not. -/
theorem ofSpelled_setter (h : setterTarget? (dropKismetMark s) = some target) (called : Bool) :
    ofSpelled s called false = target ++ "_set".toList ∧
      (ofSpelled s called true = target ++ "_set".toList ∨
        ofSpelled s called true = target ++ "_set".toList ++ ['?']) := by
  -- a name begins with `get_` or with `set_`, but not with both
  have hgetter : getterTarget? (dropKismetMark s) = none := by
    rw [(setterTarget?_eq_some.mp h).1]
    rfl
  have hunasked : ofSpelled s called false = target ++ "_set".toList := by
    rw [ofSpelled_unasked, actionOf, h]
  refine ⟨hunasked, ?_⟩
  rw [ofSpelled_asked_other hgetter, hunasked]
  -- the question mark comes behind the whole name, or not at all
  split
  · exact .inr rfl
  · exact .inl rfl

/-- A name without a question mark becomes a question if the function is called like a truth value,
    or is a getter, or has the name of a predicate. -/
theorem ofSpelled_asked_ne_iff (h : '?' ∉ ofSpelled s called false) :
    ofSpelled s called true ≠ ofSpelled s called false ↔
      called = true ∨ (∃ target, getterTarget? (dropKismetMark s) = some target) ∨
        isPredicate (ofSpelled s called false) = true := by
  cases hgetter : getterTarget? (dropKismetMark s) with
  | some target =>
    -- the question of a getter ends in a question mark, which the other name does not have
    have hmark : '?' ∈ ofSpelled s called true := by
      rw [ofSpelled_asked_getter hgetter]
      exact List.mem_concat_self
    have hne : ofSpelled s called true ≠ ofSpelled s called false := fun heq => h (heq ▸ hmark)
    exact iff_of_true hne (.inr (.inl ⟨target, rfl⟩))
  | none =>
    -- otherwise the two names differ if the mark is put behind
    rw [ofSpelled_asked_other hgetter]
    cases called <;> cases isPredicate (ofSpelled s _ false) <;> simp

/-- The question of a function that is no getter has its name before the question mark. -/
theorem ofSpelled_asked_of_ne (hgetter : getterTarget? (dropKismetMark s) = none)
    (h : ofSpelled s called true ≠ ofSpelled s called false) :
    ofSpelled s called true = ofSpelled s called false ++ ['?'] := by
  -- names that differ leave only the branch with the mark
  rw [ofSpelled_asked_other hgetter] at h ⊢
  split at h
  · rename_i hasked
    rw [if_pos hasked]
  · exact absurd rfl h

/-! ## Names of methods -/

/-- A name that is no question has no question mark. -/
theorem question_not_mem_ofMethod (name : List Char) : '?' ∉ ofMethod name false := by
  -- letters are spelled without a question mark, and what is done keeps to such characters
  have hbase := isSpelled_dropKismetMark (isSpelled_letters name) (by decide)
  rw [ofMethod, ofSpelled_unasked]
  exact (isPlain_actionOf hbase).not_mem.2.2

/-- The name of a method becomes a question if and only if the host name has the form of a truth
    value, or the method is a getter, or its name is that of a predicate. A getter asks for what it
    gets, and any other method puts a question mark behind its name. A setter is no getter, whatever
    it sets: it keeps all of its name. -/
theorem ofMethod_question (hm : IsUnmarked (ofVariable name false false) m) :
    '?' ∉ ofMethod name false ∧
      (ofMethod name true ≠ ofMethod name false ↔
        isBoolean name = true ∨ (∃ target, IsHeaded "get_".toList m target) ∨
          ∃ start ∈ ["is_", "has_", "can_"], start.toList <+: ofMethod name false) ∧
      (ofMethod name true ≠ ofMethod name false →
        (∀ target, IsHeaded "get_".toList m target → ofMethod name true = target ++ ['?']) ∧
        ((∀ target, ¬ IsHeaded "get_".toList m target) →
          ofMethod name true = ofMethod name false ++ ['?'])) ∧
      ∀ target, IsHeaded "set_".toList m target →
        ofMethod name false = target ++ "_set".toList ∧
          (ofMethod name true = target ++ "_set".toList ∨
            ofMethod name true = target ++ "_set".toList ++ ['?']) := by
  -- the unmarked name is a function of the name, so it can be replaced
  obtain rfl := isUnmarked_iff.mp hm
  have hgetter : ∀ target, IsHeaded "get_".toList (dropKismetMark (ofVariable name false false))
      target ↔ getterTarget? (dropKismetMark (ofVariable name false false)) = some target :=
    fun _ => getterTarget?_eq_some.symm
  have hno := question_not_mem_ofMethod name
  -- all conditions are put in terms of the unmarked name, of which the facts above speak
  simp only [hgetter, ← isPredicate_iff]
  refine ⟨hno, ofSpelled_asked_ne_iff hno, fun hne => ⟨fun target hgets => ?_, fun hnone => ?_⟩,
    fun target hsets => ?_⟩
  · -- a getter, another method, and a setter
    exact ofSpelled_asked_getter hgets _
  · exact ofSpelled_asked_of_ne (Option.eq_none_iff_forall_ne_some.mpr hnone) hne
  · exact ofSpelled_setter (setterTarget?_eq_some.mpr hsets) _

/-- A setter of a truth value, which sets what is named like a getter. -/
theorem ofMethod_question_setGetReady :
    IsUnmarked (ofVariable "bSetGetReady".toList false false) "set_get_ready".toList ∧
      ofMethod "bSetGetReady".toList false = "get_ready_set".toList ∧
      ofMethod "bSetGetReady".toList true = "get_ready_set?".toList := by
  have hm : IsUnmarked (ofVariable "bSetGetReady".toList false false) "set_get_ready".toList :=
    -- the parts of the name are computed, and the general statement is then about this name
    isUnmarked_iff.mpr (by decide +kernel)
  have hboolean : isBoolean "bSetGetReady".toList = true := by decide +kernel
  have hsets : IsHeaded "set_".toList "set_get_ready".toList "get_ready".toList :=
    ⟨rfl, 'g', "et_ready".toList, rfl, by decide +kernel⟩
  have hnone : ∀ target, ¬ IsHeaded "get_".toList "set_get_ready".toList target := by
    rintro target ⟨heq, -⟩
    simp at heq
  obtain ⟨-, hasks, hquestion, hsetter⟩ := ofMethod_question hm
  -- a setter is no getter, so the mark comes behind the whole name
  have hunasked := (hsetter _ hsets).1
  have hasked := (hquestion (hasks.mpr (.inl hboolean))).2 hnone
  rw [hunasked] at hasked
  exact ⟨hm, hunasked, hasked⟩

end ScriptBindings.Name

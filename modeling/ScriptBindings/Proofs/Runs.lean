import Mathlib.Data.List.TakeWhile

/-!
# Runs of characters

What a scan finds at the beginning of a text does not depend on what stands far behind it: a run of
characters ends where the text goes on with another one, and so does a fixed word.

## Key results

- `takeWhile_append_of_head` / `dropWhile_append_of_head`: a run up to the end of a text
- `takeWhile_append_of_stop` / `dropWhile_append_of_stop`: a run that ends within a text
- `isPrefix_of_head`: a word that begins in a text and ends in it
-/

namespace ScriptBindings.Text

variable {α : Type} {p : α → Bool} {w s r : List α}

/-- A run goes no further where what follows does not belong to it. -/
theorem takeWhile_append_of_head (h : ∀ c ∈ r.head?, p c = false) :
    (s ++ r).takeWhile p = s.takeWhile p := by
  have hr : r.takeWhile p = [] := by
    cases r with
    | nil => rfl
    | cons c r => simp [h c rfl]
  rw [List.takeWhile_append, hr]
  split
  · -- the whole text belongs to the run, which ends with it
    rename_i hall
    rw [List.append_nil, (List.takeWhile_prefix p).eq_of_length hall]
  · rfl

/-- What is left behind a run, where what follows does not belong to it. -/
theorem dropWhile_append_of_head (h : ∀ c ∈ r.head?, p c = false) :
    (s ++ r).dropWhile p = s.dropWhile p ++ r := by
  have hr : r.dropWhile p = r := by
    cases r with
    | nil => rfl
    | cons c r => simp [h c rfl]
  rw [List.dropWhile_append, hr]
  split
  · -- nothing of the text is left, so all that follows is
    rename_i hnone
    rw [List.isEmpty_iff.mp hnone, List.nil_append]
  · rfl

/-- A run that ends in a text is the same in a longer one. -/
theorem takeWhile_append_of_stop (h : s.dropWhile p ≠ []) (r : List α) :
    (s ++ r).takeWhile p = s.takeWhile p := by
  rw [List.takeWhile_append, if_neg]
  -- a run over the whole text would leave nothing behind
  intro hlength
  have hself := (List.takeWhile_prefix p).eq_of_length hlength
  exact h (List.dropWhile_eq_nil_iff.mpr (List.takeWhile_eq_self_iff.mp hself))

/-- What is left behind a run that ends in a text. -/
theorem dropWhile_append_of_stop (h : s.dropWhile p ≠ []) (r : List α) :
    (s ++ r).dropWhile p = s.dropWhile p ++ r := by
  rw [List.dropWhile_append, if_neg (by simpa using h)]

/-- A word that begins in a text ends in it, if the text goes on with a character that is not in the
    word. -/
theorem isPrefix_of_head (hr : ∀ c ∈ r.head?, c ∉ w) (h : w <+: s ++ r) : w <+: s := by
  obtain ⟨behind, h⟩ := h
  -- the word is longer than the text or not
  rcases List.append_eq_append_iff.mp h with ⟨rest, hrest, -⟩ | ⟨excess, hexcess, hbehind⟩
  · exact ⟨rest, hrest.symm⟩
  · cases excess with
    | nil => exact ⟨[], by simpa using hexcess⟩
    | cons c excess =>
      -- the word would go on with the character behind the text
      exact absurd (by simp [hexcess] : c ∈ w) (hr c (by simp [hbehind]))

end ScriptBindings.Text

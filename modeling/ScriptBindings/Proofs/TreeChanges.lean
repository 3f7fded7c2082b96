import Mathlib.Data.List.Basic
import ScriptBindings.FileTree.Operations

/-!
# Changes of single entries

Files, links and empty directories have nothing below them. Where such a node is put, taken out or
moved, exactly one or two entries of the tree change.

## Key results

- `lookup_eq_none_of_suffix`: below what is no directory there is nothing
- `lookup_directory_of_suffix`: around what is there, there are directories
- `lookup_put_bare` / `lookup_remove_bare` / `lookup_move_bare`: the entries after a change
- `put_of_not_directory` / `put_vacant`: nothing is put into what is no directory
- `Grows`: a tree that has all entries of another one
-/

namespace ScriptBindings

namespace Node

/-- There is nothing below the node. -/
def IsBare (n : Node) : Prop := ∀ names, names ≠ [] → n.find? names = none

theorem isBare_file (content : Bytes) : (file content).IsBare := by
  intro names h
  cases names with
  | nil => exact absurd rfl h
  | cons name names => rfl

theorem isBare_link (target : String) : (link target).IsBare := by
  intro names h
  cases names with
  | nil => exact absurd rfl h
  | cons name names => rfl

theorem isBare_directory : (directory []).IsBare := by
  intro names h
  cases names with
  | nil => exact absurd rfl h
  | cons name names => rfl

/-- A node that is no directory has nothing below it. -/
theorem isBare_of_entry {n : Node} (h : n.entry ≠ .directory) : n.IsBare := by
  cases n with
  | directory children => exact absurd rfl h
  | file content => exact isBare_file content
  | link target => exact isBare_link target

/-- Names lead where the last ones lead from where the first ones do. -/
theorem find?_append (n : Node) (xs ys : List String) :
    n.find? (xs ++ ys) = (n.find? xs).bind (·.find? ys) := by
  -- along the first names, down the children of directories
  induction xs generalizing n with
  | nil => simp [find?]
  | cons x xs ih =>
    cases n with
    | file content => simp [find?]
    | link target => simp [find?]
    | directory children =>
      simp only [List.cons_append, find?]
      cases Table.findPair x children with
      | none => rfl
      | some child => exact ih child

/-- Putting back what a key has changes nothing. -/
private theorem putPair_of_findPair {k : String} {v : Node} {es : List (String × Node)}
    (h : Table.findPair k es = some v) : Table.putPair k v es = es := by
  -- the first pair with the key is replaced by itself
  induction es with
  | nil => exact nomatch h
  | cons e es ih =>
    simp only [Table.findPair] at h
    by_cases he : e.1 = k
    · rw [if_pos he] at h
      obtain rfl := Option.some.inj h
      rw [Table.putPair, if_pos he, ← he]
    · rw [if_neg he] at h
      simp [Table.putPair, he, ih h]

/-- Nothing is put into what is no directory. -/
theorem put_of_not_directory {new n : Node} {names : List String} (hn : names ≠ [])
    (h : (n.find? names.dropLast).map entry ≠ some .directory) : put new n names = n := by
  -- along the names; the way to what is put ends at what is no directory
  induction names generalizing n with
  | nil => exact absurd rfl hn
  | cons name names ih =>
    cases n with
    | file content => simp [put]
    | link target => simp [put]
    | directory children =>
      cases names with
      | nil => simp [find?, entry] at h
      | cons name₂ names =>
        -- there are two names, so what is put goes into a child
        simp only [put]
        cases hc : Table.findPair name children with
        | none => rfl
        | some child =>
          have h' : (child.find? (name₂ :: names).dropLast).map entry ≠ some .directory := by
            simpa [List.dropLast, find?, hc] using h
          simp only [ih (by simp) h', putPair_of_findPair hc]

end Node

namespace FileTree

variable {t t' : FileTree} {k : Location}

@[simp] theorem here_put (n : Node) : (t.put k n).here = t.here := by
  unfold put withRoot; split <;> rfl

@[simp] theorem here_remove : (t.remove k).here = t.here := by
  unfold remove withRoot; split <;> rfl

@[simp] theorem here_move (target : Location) : (t.move k target).here = t.here := by
  unfold move
  split
  · rfl
  · split <;> simp

/-- The node below another one. -/
private theorem node?_append (t : FileTree) (xs k : Location) :
    t.node? (xs ++ k) = (t.node? k).bind (·.find? xs.reverse) := by
  rw [node?, List.reverse_append, Node.find?_append]; rfl

/-- What is no directory is not the root. -/
theorem ne_nil_of_lookup (h : t.lookup k ≠ some .directory) : k ≠ [] := by
  rintro rfl
  exact h (lookup_root t)

/-- Below what is no directory there is nothing. -/
theorem lookup_eq_none_of_suffix (h : t.lookup k ≠ some .directory) {j : Location}
    (hj : k <:+ j) (hne : j ≠ k) : t.lookup j = none := by
  -- the location is another one, so there are names between them
  obtain ⟨xs, rfl⟩ := hj
  have hxs : xs.reverse ≠ [] := by
    rintro hxs
    exact hne (by simpa using hxs)
  rw [lookup, node?_append]
  rw [lookup] at h
  -- what is there is no directory and so is bare
  cases hn : t.node? k with
  | none => rfl
  | some n =>
    rw [hn] at h
    have hbare : n.IsBare := Node.isBare_of_entry (by simpa using h)
    rw [Option.bind_some, hbare _ hxs]
    rfl

/-- Around what is there, there are directories. -/
theorem lookup_directory_of_suffix {e : Entry} {j : Location} (h : t.lookup j = some e)
    (hj : k <:+ j) (hne : j ≠ k) : t.lookup k = some .directory := by
  by_contra hk
  rw [lookup_eq_none_of_suffix hk hj hne] at h
  exact nomatch h

/-- Something that lies in a directory has it around it. -/
theorem lookup_tail_of_lookup {e : Entry} (h : t.lookup k = some e) (hk : k ≠ []) :
    t.lookup k.tail = some .directory :=
  -- the location itself is around what lies in it
  lookup_directory_of_suffix h (List.tail_suffix k) (by
    cases k with
    | nil => exact absurd rfl hk
    | cons name outer => simp)

/-- Nothing is put into what is no directory. -/
theorem put_of_not_directory (hk : k ≠ []) (hd : t.lookup k.tail ≠ some .directory) (n : Node) :
    t.put k n = t := by
  have hr : k.reverse ≠ [] := by simpa using hk
  have hdrop : k.reverse.dropLast = k.tail.reverse := by
    cases k with
    | nil => rfl
    | cons name outer => simp
  rw [put, Node.put_of_not_directory hr (by rw [hdrop]; exact hd)]
  rfl

/-- Putting something bare in place of no directory changes one entry. -/
theorem lookup_put_bare {n : Node} (hn : n.IsBare) (hk : k ≠ [])
    (hd : t.lookup k.tail = some .directory) (hv : t.lookup k ≠ some .directory) (j : Location) :
    (t.put k n).lookup j = if j = k then some n.entry else t.lookup j := by
  -- below the location the tree has the node that is put, and elsewhere what it had
  rw [lookup_put t hk hd]
  by_cases hj : k <:+ j
  · rw [if_pos hj]
    by_cases hjk : j = k
    · have hdrop : k.reverse.drop k.length = [] := by simp
      rw [if_pos hjk, hjk, hdrop, Node.find?, Option.map_some]
    · -- below the location there was nothing before and is nothing now
      obtain ⟨xs, rfl⟩ := hj
      have hxs : xs.reverse ≠ [] := by
        rintro hxs
        exact hjk (by simpa using hxs)
      have hdrop : (xs ++ k).reverse.drop k.length = xs.reverse := by simp
      rw [if_neg hjk, lookup_eq_none_of_suffix hv (List.suffix_append xs k) hjk, hdrop,
        hn _ hxs]
      rfl
  · have hjk : j ≠ k := by rintro rfl; exact hj (List.suffix_refl _)
    rw [if_neg hj, if_neg hjk]

/-- Putting something bare where there is nothing changes that entry only, or nothing at all. -/
theorem put_vacant (hk : k ≠ []) (hv : t.lookup k = none) {n : Node} (hn : n.IsBare) :
    t.put k n = t ∨ ∀ j, (t.put k n).lookup j = if j = k then some n.entry else t.lookup j := by
  -- the node is put only if there is a directory to put it in
  by_cases hd : t.lookup k.tail = some .directory
  · exact .inr (lookup_put_bare hn hk hd (by simp [hv]))
  · exact .inl (put_of_not_directory hk hd n)

/-- Taking out what is no directory changes one entry. -/
theorem lookup_remove_bare (hk : k ≠ []) (hv : t.lookup k ≠ some .directory) (j : Location) :
    (t.remove k).lookup j = if j = k then none else t.lookup j := by
  rw [lookup_remove t hk]
  by_cases hj : k <:+ j
  · by_cases hjk : j = k
    · simp [hjk]
    · rw [if_pos hj, if_neg hjk, lookup_eq_none_of_suffix hv hj hjk]
  · have hjk : j ≠ k := by rintro rfl; exact hj (List.suffix_refl _)
    rw [if_neg hj, if_neg hjk]

/-- Moving what is no directory in place of no directory changes two entries. -/
theorem lookup_move_bare {target : Location} {e : Entry} (he : t.lookup k = some e)
    (hne : e ≠ .directory) (hk : k ≠ []) (ht : target ≠ [])
    (hd : t.lookup target.tail = some .directory)
    (hv : t.lookup target ≠ some .directory) (j : Location) :
    (t.move k target).lookup j =
      if j = target then some e else if j = k then none else t.lookup j := by
  -- moving something to itself changes nothing
  by_cases heq : k = target
  · subst heq
    by_cases hj : j = k
    · simp [move, hj, he]
    · simp [move, hj]
  -- the node is taken out of one place and put in another
  obtain ⟨n, hn, rfl⟩ := Option.map_eq_some_iff.mp he
  have hbare : n.IsBare := Node.isBare_of_entry hne
  have hv' : t.lookup k ≠ some .directory := by rw [he]; simpa using hne
  have hremoved : ∀ i, (t.remove k).lookup i = if i = k then none else t.lookup i :=
    lookup_remove_bare hk hv'
  -- what is moved is no directory, so the target does not lie in it
  have htail : target.tail ≠ k := by
    rintro rfl
    exact hv' hd
  simp only [move, if_neg heq, hn]
  rw [lookup_put_bare hbare ht (by rw [hremoved, if_neg htail, hd])
    (by rw [hremoved, if_neg (Ne.symm heq)]; exact hv), hremoved]

/-! ## Growing -/

/-- The tree has all entries of another one, and the same working directory. -/
structure Grows (t t' : FileTree) : Prop where
  here_eq : t'.here = t.here
  keeps : ∀ k e, t.lookup k = some e → t'.lookup k = some e

theorem Grows.refl (t : FileTree) : t.Grows t := ⟨rfl, fun _ _ h => h⟩

theorem Grows.trans {t₁ t₂ t₃ : FileTree} (h : t₁.Grows t₂) (h' : t₂.Grows t₃) : t₁.Grows t₃ :=
  ⟨h'.here_eq.trans h.here_eq, fun k e he => h'.keeps k e (h.keeps k e he)⟩

/-- A tree grows when something is put where there was nothing. -/
theorem grows_put (hk : k ≠ []) (hv : t.lookup k = none) {n : Node} (hn : n.IsBare) :
    t.Grows (t.put k n) := by
  refine ⟨here_put n, fun j e he => ?_⟩
  -- what was there is not at the location of the new node
  rcases put_vacant hk hv hn with heq | hput
  · rw [heq, he]
  · have hjk : j ≠ k := by rintro rfl; rw [hv] at he; exact nomatch he
    rw [hput, if_neg hjk, he]

end FileTree

end ScriptBindings

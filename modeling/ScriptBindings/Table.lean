/-!
# Tables in order of insertion

A table gives each of its keys one value and remembers the order in which the keys were first put
in. Putting a key in again changes its value but not its place. The operations are described through
two views:

* `get?`: the value of a key (`get?_insert`, `get?_restrict`, `get?_erase`);
* `keys`: the keys in order (`keys_insert`, `keys_restrict`).
-/

namespace ScriptBindings

/-- Pairs of a key and a value, in order of insertion. -/
structure Table (κ α : Type) where
  entries : List (κ × α)
  nodup : (entries.map Prod.fst).Nodup

namespace Table

variable {κ α : Type}

/-- The table without entries. -/
def empty : Table κ α := ⟨[], List.nodup_nil⟩

instance : Inhabited (Table κ α) := ⟨empty⟩

/-- The keys, in order of first insertion. -/
def keys (t : Table κ α) : List κ := t.entries.map Prod.fst

/-- The values, in the order of their keys. -/
def values (t : Table κ α) : List α := t.entries.map Prod.snd

/-- The number of keys. -/
def size (t : Table κ α) : Nat := t.entries.length

/-- Keeps the keys with a property. -/
def restrict (t : Table κ α) (keep : κ → Bool) : Table κ α where
  entries := t.entries.filter (keep ·.1)
  nodup := t.nodup.sublist (List.filter_sublist.map _)

theorem keys_restrict (t : Table κ α) (keep : κ → Bool) :
    (t.restrict keep).keys = t.keys.filter keep := by
  simp only [keys, restrict, List.filter_map]
  rfl

variable [DecidableEq κ]

/-! ## Lists of pairs -/

/-- The value of the first pair with a given key. -/
def findPair (k : κ) : List (κ × α) → Option α
  | [] => none
  | e :: es => if e.1 = k then some e.2 else findPair k es

/-- Puts a pair into a list of pairs: in the place of the first pair with that key, or at the
end. -/
def putPair (k : κ) (v : α) : List (κ × α) → List (κ × α)
  | [] => [(k, v)]
  | e :: es => if e.1 = k then (k, v) :: es else e :: putPair k v es

theorem map_fst_putPair (k : κ) (v : α) (es : List (κ × α)) :
    (putPair k v es).map Prod.fst =
      if k ∈ es.map Prod.fst then es.map Prod.fst else es.map Prod.fst ++ [k] := by
  induction es with
  | nil => simp [putPair]
  | cons e es ih =>
    by_cases h : e.1 = k
    · simp [putPair, h]
    · have h' : ¬ k = e.1 := fun hk => h hk.symm
      simp only [putPair, h, if_false, List.map_cons, ih, List.mem_cons, h', false_or]
      split <;> simp

theorem findPair_putPair (k k' : κ) (v : α) (es : List (κ × α)) :
    findPair k' (putPair k v es) = if k' = k then some v else findPair k' es := by
  induction es with
  | nil => simp only [putPair, findPair, eq_comm]
  | cons e es ih =>
    by_cases h : e.1 = k
    · by_cases hk : k = k'
      · simp [putPair, findPair, h, hk]
      · simp [putPair, findPair, h, hk, Ne.symm hk]
    · by_cases hk : e.1 = k'
      · have : ¬ k' = k := fun hkk => h (hk.trans hkk)
        simp [putPair, findPair, hk, this]
      · simp [putPair, findPair, h, hk, ih]

theorem findPair_filter (keep : κ → Bool) (k : κ) (es : List (κ × α)) :
    findPair k (es.filter (keep ·.1)) = if keep k then findPair k es else none := by
  induction es with
  | nil => simp [findPair]
  | cons e es ih =>
    by_cases he : keep e.1
    · by_cases hk : e.1 = k
      · simp [findPair, hk ▸ he, hk]
      · simpa [findPair, he, hk] using ih
    · by_cases hk : e.1 = k
      · have : ¬ keep k := hk ▸ he
        simpa [he, this] using ih
      · simpa [findPair, he, hk] using ih

/-! ## Operations -/

/-- The value of a key. -/
def get? (t : Table κ α) (k : κ) : Option α := findPair k t.entries

/-- Whether a key is in the table. -/
def contains (t : Table κ α) (k : κ) : Bool := (t.get? k).isSome

/-- Gives a key a value, in the place of its earlier value if it had one. -/
def insert (t : Table κ α) (k : κ) (v : α) : Table κ α where
  entries := putPair k v t.entries
  nodup := by
    rw [map_fst_putPair]
    split
    · exact t.nodup
    · next h =>
      exact List.nodup_append.mpr ⟨t.nodup, by simp, by
        intro a ha b hb hab
        rw [List.mem_singleton] at hb
        exact h (hb ▸ hab ▸ ha)⟩

/-- Takes a key out. -/
def erase (t : Table κ α) (k : κ) : Table κ α := t.restrict (· ≠ k)

/-- The table that holds a list of pairs, put in one after the other. -/
def ofList (es : List (κ × α)) : Table κ α :=
  es.foldl (fun t e => t.insert e.1 e.2) empty

theorem keys_insert (t : Table κ α) (k : κ) (v : α) :
    (t.insert k v).keys = if k ∈ t.keys then t.keys else t.keys ++ [k] :=
  map_fst_putPair k v t.entries

theorem get?_insert (t : Table κ α) (k k' : κ) (v : α) :
    (t.insert k v).get? k' = if k' = k then some v else t.get? k' :=
  findPair_putPair k k' v t.entries

theorem get?_restrict (t : Table κ α) (keep : κ → Bool) (k : κ) :
    (t.restrict keep).get? k = if keep k then t.get? k else none :=
  findPair_filter keep k t.entries

theorem get?_erase (t : Table κ α) (k k' : κ) :
    (t.erase k).get? k' = if k' = k then none else t.get? k' := by
  rw [erase, get?_restrict]
  by_cases h : k' = k <;> simp [h]

/-- A key has the value that it is paired with. -/
theorem get?_eq_some {t : Table κ α} {k : κ} {v : α} :
    t.get? k = some v ↔ (k, v) ∈ t.entries := by
  have h : ∀ es : List (κ × α), (es.map Prod.fst).Nodup →
      (findPair k es = some v ↔ (k, v) ∈ es) := by
    intro es hes
    induction es with
    | nil => simp [findPair]
    | cons e es ih =>
      rw [List.map_cons, List.nodup_cons] at hes
      by_cases he : e.1 = k
      · -- a second pair with this key would be one too many
        have hno : (k, v) ∉ es := fun hmem => hes.1 (he ▸ List.mem_map_of_mem hmem)
        simp [findPair, he, hno, Prod.ext_iff, eq_comm]
      · have hne : ¬ (k, v) = e := fun heq => he (heq ▸ rfl)
        simpa [findPair, he, hne] using ih hes.2
  exact h t.entries t.nodup

/-- A key has a value if it has been put in. -/
theorem get?_eq_none {t : Table κ α} {k : κ} : t.get? k = none ↔ k ∉ t.keys := by
  have h : ∀ es : List (κ × α), findPair k es = none ↔ k ∉ es.map Prod.fst := by
    intro es
    induction es with
    | nil => simp [findPair]
    | cons e es ih =>
      by_cases he : e.1 = k
      · simp [findPair, he]
      · simpa [findPair, he, Ne.symm he] using ih
  exact h t.entries

/-- Taking out the first key leaves the other pairs. -/
theorem entries_erase_head {t : Table κ α} {k : κ} {v : α} {rest : List (κ × α)}
    (h : t.entries = (k, v) :: rest) : (t.erase k).entries = rest := by
  have hnodup := t.nodup
  rw [h, List.map_cons, List.nodup_cons] at hnodup
  have hkeep : ∀ e ∈ rest, decide (e.1 ≠ k) = true := by
    intro e he
    have hne : e.1 ≠ k := by
      rintro rfl
      exact hnodup.1 (List.mem_map.mpr ⟨e, he, rfl⟩)
    simpa using hne
  simp only [erase, restrict, h, List.filter_cons, ne_eq, not_true_eq_false, decide_false]
  exact List.filter_eq_self.mpr hkeep

end Table

end ScriptBindings

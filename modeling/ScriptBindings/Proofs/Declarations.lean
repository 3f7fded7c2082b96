import ScriptBindings.Proofs.ResolvedParts

/-!
# Declarations of a dump

Enums and structs are declared one after the other. A table that they have been put into has their
names in the order in which these first came, and under each name what the last declaration of that
name says.

## Key results

- `HoldsLast.insert`: one more declaration is put in
- `declareEnum_eq_ok` / `declareStruct_eq_ok`: what one declaration puts in
- `holdsLast_enums` / `holdsLast_structs`: what the tables hold after all declarations
-/

namespace ScriptBindings

variable {α β : Type}

/-! ## Named declarations -/

/-- The keys of the names that declarations give. -/
def declaredKeys (ds : List (Scalar × α)) : List Scalar := ds.map fun d => d.1.key

/-- The last one of the declarations that go by a key. -/
def lastNamed (ds : List (Scalar × α)) (k : Scalar) : Option (Scalar × α) :=
  (ds.filter fun d => d.1.key = k).getLast?

/-- An enum and its name. -/
def EnumType.named? : Part EnumType → Option (Scalar × EnumType)
  | .ok e => some (e.name, e)
  | .error _ => none

/-- The declaration of a struct and its name. -/
def StructDecl.named? : Part StructDecl → Option (Scalar × StructDecl)
  | .ok d =>
    match d.name with
    | .ok name => some (name, d)
    | .error _ => none
  | .error _ => none

/-- The enums of a dump that have a name. -/
def Dump.namedEnums (dump : Dump) : List (Scalar × EnumType) :=
  dump.enums.filterMap EnumType.named?

/-- The declarations of structs that have a name. -/
def Dump.namedStructs (dump : Dump) : List (Scalar × StructDecl) :=
  dump.structs.filterMap StructDecl.named?

/-- What is named is well-formed, and so is its name. -/
theorem StructDecl.named?_eq_some {part : Part StructDecl} {name : Scalar} {d : StructDecl} :
    named? part = some (name, d) ↔ part = .ok d ∧ d.name = .ok name := by
  -- a malformed declaration has no name, and a well-formed one may still lack it
  cases part with
  | error fault => simp [named?]
  | ok d' =>
    cases hname : d'.name with
    | error fault =>
      simp only [named?, hname, reduceCtorEq, false_iff, not_and, Except.ok.injEq]
      rintro rfl
      simp [hname]
    | ok name' =>
      simp only [named?, hname, Option.some.injEq, Prod.mk.injEq, Except.ok.injEq]
      -- the pair gives back the declaration and its name
      constructor
      · rintro ⟨rfl, rfl⟩
        exact ⟨rfl, hname⟩
      · rintro ⟨rfl, h⟩
        exact ⟨Except.ok.inj (hname.symm.trans h), rfl⟩

/-- Where all declarations of structs are named ones, each of them has a name. -/
theorem Dump.exists_named {dump : Dump}
    (h : dump.structs = dump.namedStructs.map fun d => .ok d.2) {part : Part StructDecl}
    (hpart : part ∈ dump.structs) : ∃ d, StructDecl.named? part = some d := by
  -- the part comes from a declaration of the list, which has come from a part itself
  rw [h] at hpart
  obtain ⟨d, hd, rfl⟩ := List.mem_map.mp hpart
  obtain ⟨part, -, hnamed⟩ := List.mem_filterMap.mp hd
  obtain ⟨rfl, -⟩ := StructDecl.named?_eq_some.mp hnamed
  exact ⟨d, hnamed⟩

/-- One more declaration is the last one that goes by its key. -/
theorem lastNamed_concat (ds : List (Scalar × α)) (d : Scalar × α) (k : Scalar) :
    lastNamed (ds ++ [d]) k = if k = d.1.key then some d else lastNamed ds k := by
  simp only [lastNamed, getLast?_filter_concat, decide_eq_true_eq, @eq_comm _ k]

/-- What goes by a key has a name with that key. -/
theorem key_of_lastNamed {ds : List (Scalar × α)} {k : Scalar} {d : Scalar × α}
    (h : lastNamed ds k = some d) : d.1.key = k :=
  of_decide_eq_true (List.mem_filter.mp (List.mem_of_getLast? h)).2

/-! ## Tables of declarations -/

/-- A table has the names of declarations in the order in which they first came, and under each name
    what is related to the last declaration of that name. -/
structure HoldsLast (R : Scalar × α → β → Prop) (ds : List (Scalar × α)) (t : Table Scalar β) :
    Prop where
  keys : t.keys = (declaredKeys ds).eraseDups
  last : ∀ k, Option.Rel R (lastNamed ds k) (t.get? k)

namespace HoldsLast

variable {R : Scalar × α → β → Prop} {ds : List (Scalar × α)} {t : Table Scalar β}

/-- Without declarations there is nothing. -/
theorem empty : HoldsLast R [] .empty := ⟨rfl, fun _ => .none⟩

/-- One more declaration is put in. -/
theorem insert (h : HoldsLast R ds t) {d : Scalar × α} {v : β} (hv : R d v) :
    HoldsLast R (ds ++ [d]) (t.insert d.1.key v) := by
  constructor
  · -- the keys: a name that has come before adds none
    have hmem : d.1.key ∈ t.keys ↔ d.1.key ∈ declaredKeys ds := by rw [h.keys, List.mem_eraseDups]
    simp only [Table.keys_insert, hmem, declaredKeys, List.map_append, List.map_singleton,
      eraseDups_concat]
    rw [h.keys]
    rfl
  · -- the values: the new declaration is the last one for its own key only
    intro k
    rw [lastNamed_concat, Table.get?_insert]
    split
    · exact .some hv
    · exact h.last k

/-- What is in the table is related to the last declaration of its name. -/
theorem of_get? (h : HoldsLast R ds t) {k : Scalar} {v : β} (hget : t.get? k = some v) :
    ∃ d, lastNamed ds k = some d ∧ d.1.key = k ∧ R d v := by
  -- under each key, either both sides have something or neither has
  have hrel := h.last k
  rw [hget] at hrel
  cases hd : lastNamed ds k with
  | none => exact nomatch hd ▸ hrel
  | some d =>
    rw [hd] at hrel
    cases hrel with
    | some hR => exact ⟨d, rfl, key_of_lastNamed hd, hR⟩

/-- What is not in the table has not been declared. -/
theorem lastNamed_eq_none (h : HoldsLast R ds t) {k : Scalar} (hget : t.get? k = none) :
    lastNamed ds k = none := by
  have hrel := h.last k
  rw [hget] at hrel
  cases hd : lastNamed ds k with
  | none => rfl
  | some d => exact nomatch hd ▸ hrel

/-- A name is in the table if it has been declared. -/
theorem get?_eq_none (h : HoldsLast R ds t) {k : Scalar} :
    t.get? k = none ↔ k ∉ declaredKeys ds := by
  -- the keys of the table are the declared names, repetitions apart
  rw [← List.mem_eraseDups, ← h.keys]
  exact Table.get?_eq_none

end HoldsLast

/-! ## Declaring -/

/-- What is registered for an enum says what its declaration says. The name under which it is listed
    is another one with the same key, if an earlier declaration has given it. -/
def EnumType.Mirrors (d : Scalar × EnumType) (e : EnumType) : Prop :=
  e = { d.2 with firstName := e.firstName } ∧ e.name = d.1 ∧ e.firstName.key = d.1.key

/-- What is known of a struct from the outside says what a declaration says. -/
structure StructHead.Mirrors (d : Scalar × StructDecl) (head : StructHead) : Prop where
  name : head.name = d.1
  classMark : head.classMark = d.2.classMark
  flags : StructFlag.resolve d.2.flags = .ok head.flags
  tooltip : head.tooltip = d.2.tooltip
  category : head.category = d.2.category

/-- A struct of which only the head is registered. -/
def StructHead.Registers (d : Scalar × StructDecl) (s : Struct) : Prop :=
  ∃ head, StructHead.Mirrors d head ∧ s = .ofHead head

/-- What a declaration leaves open of a head are only the flags. -/
theorem StructHead.Mirrors.eq {d : Scalar × StructDecl} {head : StructHead}
    (h : StructHead.Mirrors d head) :
    head = {
      name := d.1
      classMark := d.2.classMark
      flags := head.flags
      tooltip := d.2.tooltip
      category := d.2.category } := by
  rw [← h.name, ← h.classMark, ← h.tooltip, ← h.category]

namespace Model

/-- An enum is declared if it is well-formed. -/
theorem declareEnum_eq_ok {t t' : Table Scalar EnumType} {part : Part EnumType} :
    declareEnum t part = .ok t' ↔
      ∃ e, part = .ok e ∧ t' = t.insert e.name.key { e with
        firstName := (t.get? e.name.key).elim e.name fun earlier => earlier.firstName } := by
  -- only reading can fail, after which the table is fixed
  rw [declareEnum, bind_eq_ok]
  refine exists_congr fun e => and_congr Part.require_eq_ok ?_
  exact ⟨fun h => (Except.ok.inj h).symm, fun h => congrArg _ h.symm⟩

/-- A struct is declared if it has a name and its flags are known. -/
theorem declareStruct_eq_ok {t t' : Table Scalar Struct} {part : Part StructDecl} :
    declareStruct t part = .ok t' ↔
      ∃ d head, StructDecl.named? part = some d ∧ StructHead.Mirrors d head ∧
        t' = t.insert d.1.key (.ofHead head) := by
  -- three things can fail, and what they give makes up the head
  simp only [declareStruct, bind_eq_ok, Part.require_eq_ok]
  constructor
  · -- the steps that have succeeded are what the head mirrors
    rintro ⟨d, hpart, flags, hflags, name, hname, heq⟩
    exact ⟨(name, d), _, StructDecl.named?_eq_some.mpr ⟨hpart, hname⟩, ⟨rfl, rfl, hflags, rfl, rfl⟩,
      (Except.ok.inj heq).symm⟩
  · -- the head determines the steps, its flags included
    rintro ⟨⟨name, d⟩, head, hd, hhead, rfl⟩
    obtain ⟨hpart, hname⟩ := StructDecl.named?_eq_some.mp hd
    refine ⟨d, hpart, head.flags, hhead.flags, name, hname, ?_⟩
    exact congrArg (fun head => Except.ok (t.insert name.key (.ofHead head))) hhead.eq.symm

/-- All enums have a name, and each name has what its last declaration says. -/
theorem holdsLast_enums {dump : Dump} {t : Table Scalar EnumType}
    (h : dump.enums.foldlM declareEnum .empty = .ok t) :
    dump.enums = dump.namedEnums.map (fun d => .ok d.2) ∧
      HoldsLast EnumType.Mirrors dump.namedEnums t := by
  -- the invariant of the traversal: all so far are named, and the table holds the last ones
  refine foldlM_induction (P := fun done t =>
    done = (done.filterMap EnumType.named?).map (fun d => .ok d.2) ∧
      HoldsLast EnumType.Mirrors (done.filterMap EnumType.named?) t) ⟨rfl, .empty⟩ ?_ h
  rintro done part t t' - ⟨hall, hholds⟩ hstep
  -- one more enum, which replaces an earlier one of its name
  obtain ⟨e, rfl, rfl⟩ := declareEnum_eq_ok.mp hstep
  rw [List.filterMap_append, List.map_append, ← hall]
  refine ⟨rfl, hholds.insert (d := (e.name, e)) ⟨rfl, rfl, ?_⟩⟩
  -- its first name is its own, or that of the enum that was there, which has the same key
  cases hget : t.get? e.name.key with
  | none => rfl
  | some earlier =>
    obtain ⟨d, -, hkey, hd⟩ := hholds.of_get? hget
    exact hd.2.2.trans hkey

/-- All structs have a name, and each name has the head that its last declaration gives. -/
theorem holdsLast_structs {dump : Dump} {t : Table Scalar Struct}
    (h : dump.structs.foldlM declareStruct .empty = .ok t) :
    dump.structs = dump.namedStructs.map (fun d => .ok d.2) ∧
      HoldsLast StructHead.Registers dump.namedStructs t := by
  -- the same invariant as for enums, with the heads that are registered
  refine foldlM_induction (P := fun done t =>
    done = (done.filterMap StructDecl.named?).map (fun d => .ok d.2) ∧
      HoldsLast StructHead.Registers (done.filterMap StructDecl.named?) t) ⟨rfl, .empty⟩ ?_ h
  rintro done part t t' - ⟨hall, hholds⟩ hstep
  -- one more struct, with the flags that have been resolved for it
  obtain ⟨d, head, hd, hhead, rfl⟩ := declareStruct_eq_ok.mp hstep
  have hpart := (StructDecl.named?_eq_some.mp hd).1
  simp only [List.filterMap_append, List.filterMap_cons_some hd, List.filterMap_nil,
    List.map_append, ← hall]
  exact ⟨by rw [hpart]; rfl, hholds.insert ⟨head, hhead, rfl⟩⟩

end Model

end ScriptBindings

import ScriptBindings.Proofs.Declarations

/-!
# A model is closed over what it declares

After all structs have been declared, each declaration gives its struct a super and members. At the
end every struct has the head and the members of its last declaration and the super of the last one
that names a super. Whatever refers to a struct or an enum, at any depth, refers to what is
registered under that name.

## Key results

- `resolveStruct_eq_ok`: what one declaration gives to its struct
- `Resolved.next`: what has been given so far, after one more declaration
- `ofDump_mirrors`: a model says what its dump declares
-/

namespace ScriptBindings

variable {scope m : Model} {t t' : Table Scalar Struct} {ds done : List (Scalar × StructDecl)}

/-! ## Supers -/

/-- Of the declarations that go by a key and name a super, the super of the last one. -/
def lastParent (ds : List (Scalar × StructDecl)) (k : Scalar) : Option (Part Scalar) :=
  ((ds.filter fun d => d.1.key = k).filterMap fun d => d.2.parent).getLast?

/-- One more declaration changes the super that it names. -/
theorem lastParent_concat (ds : List (Scalar × StructDecl)) (d : Scalar × StructDecl) (k : Scalar) :
    lastParent (ds ++ [d]) k =
      if k = d.1.key then d.2.parent <|> lastParent ds k else lastParent ds k := by
  -- a declaration of the name comes last among those that name a super, or is none of them
  by_cases hk : k = d.1.key
  · cases hparent : d.2.parent <;> simp [lastParent, List.filter_append, hk, hparent]
  · simp [lastParent, List.filter_append, hk, Ne.symm hk]

/-- A super is known by the name of the struct that is registered for it. -/
def Model.HasParent (m : Model) (reference : Part Scalar) (parent : Scalar) : Prop :=
  ∃ head, Model.RefersTo m.head? reference head ∧ head.name = parent

/-- References to supers are resolved to the names that are registered. -/
private theorem rel_parent {given : Option (Part Scalar)} {p : Option Struct}
    (h : resolveOptional m.structOf given = .ok p) :
    Option.Rel m.HasParent given (p.map fun s => s.name) := by
  cases resolveOptional_eq_ok.mp h with
  | none => exact .none
  -- a super that is found is registered under the key of the name that was given
  | some hs =>
    obtain ⟨name, hname, hget⟩ := Model.structOf_eq_ok.mp hs
    exact .some ⟨_, ⟨name, hname, by rw [Model.head?, hget]; rfl⟩, rfl⟩

/-! ## Members -/

/-- What a struct has besides its head, after some of the declarations have been gone through: the
    super of the last one of its name that names one, and the members of the last one. -/
structure Struct.Members (m : Model) (done : List (Scalar × StructDecl)) (k : Scalar) (s : Struct) :
    Prop where
  parent : Option.Rel m.HasParent (lastParent done k) s.parent
  properties : List.Forall₂ (Property.Mirrors m s.name)
    ((lastNamed done k).elim [] fun d => d.2.properties) s.properties
  functions : List.Forall₂ (HostFunction.MirrorsPart m s.name)
    ((lastNamed done k).elim [] fun d => d.2.functions) s.functions

/-- Of a model, only the heads of structs and the enums count. -/
theorem Struct.Members.of_heads {m' : Model} (hheads : ∀ k, m'.head? k = m.head? k)
    (henums : ∀ k, m'.enums.get? k = m.enums.get? k) {k : Scalar} {s : Struct}
    (hs : s.Members m done k) : s.Members m' done k := by
  -- supers, properties and functions ask the model for heads and enums only
  have hhead : m'.head? = m.head? := funext hheads
  refine ⟨hs.parent.imp ?_, hs.properties.imp fun _ _ h => h.of_heads hheads henums,
    hs.functions.imp fun _ _ h => h.of_heads hheads henums⟩
  rintro reference parent ⟨head, hrefers, hname⟩
  exact ⟨head, hhead ▸ hrefers, hname⟩

/-- What a declaration gives to its struct. -/
structure Struct.Gets (scope : Model) (d : StructDecl) (s s' : Struct) : Prop where
  head : s'.toStructHead = s.toStructHead
  parent : ∃ given, Option.Rel scope.HasParent d.parent given ∧ s'.parent = (given <|> s.parent)
  properties : List.Forall₂ (Property.Mirrors scope s.name) d.properties s'.properties
  functions : List.Forall₂ (HostFunction.MirrorsPart scope s.name) d.functions s'.functions

/-- A declaration gives a super and members to a struct that is registered. -/
theorem Model.resolveStruct_eq_ok {part : Part StructDecl}
    (hregistered : ∀ d, StructDecl.named? part = some d → t.get? d.1.key ≠ none)
    (h : resolveStruct scope t part = .ok t') :
    ∃ d s s', StructDecl.named? part = some d ∧ t.get? d.1.key = some s ∧
      Struct.Gets scope d.2 s s' ∧ t' = t.insert d.1.key s' := by
  simp only [resolveStruct, bind_eq_ok, Part.require_eq_ok] at h
  obtain ⟨d, hpart, name, hname, h⟩ := h
  have hd := StructDecl.named?_eq_some.mpr ⟨hpart, hname⟩
  -- a declaration is looked up under its own name, so a missing entry is impossible
  cases hget : t.get? name.key with
  | none => exact absurd hget (hregistered _ hd)
  | some s =>
    simp only [hget, bind_eq_ok, mapM_eq_ok, Property.resolve_eq_ok, HostFunction.resolve_eq_ok]
      -- the three steps of the resolution give the super and the members of the struct
      at h
    obtain ⟨p, hp, properties, hproperties, functions, hfunctions, heq⟩ := h
    -- head and key are those of the struct that was there
    refine ⟨(name, d), s, _, hd, hget, ?_, (Except.ok.inj heq).symm⟩
    exact ⟨rfl, ⟨_, rel_parent hp, rfl⟩, hproperties, hfunctions⟩

/-- What a struct has after one more declaration of its name. -/
theorem Struct.Gets.members {d : Scalar × StructDecl} {s s' : Struct}
    (hgets : Struct.Gets scope d.2 s s') (hs : s.Members scope done d.1.key) :
    s'.Members scope (done ++ [d]) d.1.key := by
  have hname : s'.name = s.name := congrArg StructHead.name hgets.head
  refine ⟨?_, ?_, ?_⟩
  · -- the super: the one that is given, or else the one from before
    obtain ⟨given, hgiven, hparent⟩ := hgets.parent
    rw [lastParent_concat, if_pos rfl, hparent]
    -- without a super of its own, the declaration leaves the earlier one
    cases hd : d.2.parent with
    | none =>
      rw [hd] at hgiven
      cases hgiven
      exact hs.parent
    | some reference =>
      rw [hd] at hgiven
      cases hgiven with
      | some hp => exact .some hp
  · -- the members are those of the new declaration alone
    rw [lastNamed_concat, if_pos rfl, hname]
    exact hgets.properties
  · rw [lastNamed_concat, if_pos rfl, hname]
    exact hgets.functions

/-- A declaration of another name changes nothing. -/
theorem Struct.Members.other {d : Scalar × StructDecl} {k : Scalar} {s : Struct}
    (hs : s.Members scope done k) (hk : k ≠ d.1.key) : s.Members scope (done ++ [d]) k := by
  constructor
  · rw [lastParent_concat, if_neg hk]
    exact hs.parent
  · rw [lastNamed_concat, if_neg hk]
    exact hs.properties
  · rw [lastNamed_concat, if_neg hk]
    exact hs.functions

/-! ## Going through all declarations -/

/-- The structs after some of the declarations have been gone through: those that were declared,
    with their heads as they were. -/
structure Model.Resolved (scope : Model) (done : List (Scalar × StructDecl))
    (t : Table Scalar Struct) : Prop where
  keys : t.keys = scope.structs.keys
  heads : ∀ k, (t.get? k).map Struct.toStructHead = scope.head? k
  members : ∀ k s, t.get? k = some s → s.Members scope done k

namespace Model

/-- At first structs have only heads. -/
theorem Resolved.start
    (h : ∀ k s, scope.structs.get? k = some s → ∃ head, s = .ofHead head) :
    Resolved scope [] scope.structs := by
  -- nothing has been gone through, so no super and no members are asked for
  refine ⟨rfl, fun _ => rfl, fun k s hget => ?_⟩
  obtain ⟨head, rfl⟩ := h k s hget
  exact ⟨.none, .nil, .nil⟩

/-- One more declaration gives its struct a super and members. -/
theorem Resolved.next (h : Resolved scope done t) {d : Scalar × StructDecl} {s s' : Struct}
    (hget : t.get? d.1.key = some s) (hgets : Struct.Gets scope d.2 s s') :
    Resolved scope (done ++ [d]) (t.insert d.1.key s') := by
  -- the key is there already, so putting the struct in again does not move it
  have hmem : d.1.key ∈ t.keys := by
    by_contra hno
    rw [Table.get?_eq_none.mpr hno] at hget
    exact nomatch hget
  constructor
  · rw [Table.keys_insert, if_pos hmem]
    exact h.keys
  · -- the head under the key is as it was, and the others are not touched
    intro k
    rw [Table.get?_insert, ← h.heads k]
    split
    · next hk => rw [hk, hget, Option.map_some, Option.map_some, hgets.head]
    · rfl
  · -- the struct itself has been given more, and the others see a declaration of another name
    intro k s'' hk
    rw [Table.get?_insert] at hk
    split at hk
    · next heq =>
      obtain rfl := Option.some.inj hk
      exact heq ▸ hgets.members (h.members _ _ hget)
    · next hne => exact (h.members k s'' hk).other hne

/-- All declarations are gone through. -/
theorem Resolved.all {parts : List (Part StructDecl)}
    (hdeclared : ∀ d ∈ parts.filterMap StructDecl.named?, scope.structs.get? d.1.key ≠ none)
    (hstart : Resolved scope [] scope.structs)
    (h : parts.foldlM (resolveStruct scope) scope.structs = .ok t) :
    Resolved scope (parts.filterMap StructDecl.named?) t := by
  -- the invariant of the traversal, which each step passes on
  refine foldlM_induction (P := fun done t =>
    Resolved scope (done.filterMap StructDecl.named?) t) hstart ?_ h
  intro done part t t' hpart hinv hstep
  -- heads never go away, so every declared name is still registered
  have hregistered : ∀ d, StructDecl.named? part = some d → t.get? d.1.key ≠ none := by
    intro d hd hnone
    have hhead := hinv.heads d.1.key
    rw [hnone, Option.map_none, head?, eq_comm, Option.map_eq_none_iff] at hhead
    exact hdeclared d (List.mem_filterMap.mpr ⟨part, hpart, hd⟩) hhead
  obtain ⟨d, s, s', hd, hget, hgets, rfl⟩ := resolveStruct_eq_ok hregistered hstep
  rw [List.filterMap_append, List.filterMap_cons_some hd, List.filterMap_nil]
  exact hinv.next hget hgets

end Model

/-! ## The model -/

/-- A struct that is registered says what its last declaration says, and its super is the one that
    the last declaration with a super names. -/
structure Struct.Mirrors (m : Model) (ds : List (Scalar × StructDecl)) (d : Scalar × StructDecl)
    (s : Struct) : Prop where
  head : StructHead.Mirrors d s.toStructHead
  parent : Option.Rel m.HasParent (lastParent ds d.1.key) s.parent
  properties : List.Forall₂ (Property.Mirrors m s.name) d.2.properties s.properties
  functions : List.Forall₂ (HostFunction.MirrorsPart m s.name) d.2.functions s.functions

/-- A model says what a dump declares: every declaration has a name, the names are listed in the
    order in which they first came, each name is that of what is registered under it, and what is
    registered says what was declared last, with all references to what is registered. -/
structure Model.Mirrors (dump : Dump) (m : Model) : Prop where
  enumsNamed : dump.enums = dump.namedEnums.map fun d => .ok d.2
  structsNamed : dump.structs = dump.namedStructs.map fun d => .ok d.2
  enums : HoldsLast EnumType.Mirrors dump.namedEnums m.enums
  structs : HoldsLast (Struct.Mirrors m dump.namedStructs) dump.namedStructs m.structs
  enumName : ∀ k e, m.enums.get? k = some e → e.name.key = k
  structName : ∀ k s, m.structs.get? k = some s → s.name.key = k

namespace Model

/-- What was looked up among the heads is what is registered in the end. -/
theorem Resolved.holdsLast (h : Resolved scope ds t)
    (hheads : HoldsLast StructHead.Registers ds scope.structs) :
    HoldsLast (Struct.Mirrors ⟨scope.enums, t⟩ ds) ds t := by
  refine ⟨h.keys.trans hheads.keys, fun k => ?_⟩
  -- under each key, the struct in the end and its first head belong together
  have hhead := h.heads k
  cases hget : t.get? k with
  -- what is missing in the end had no head, so it was never declared
  | none =>
    rw [hget, Option.map_none, head?, eq_comm, Option.map_eq_none_iff] at hhead
    rw [hheads.lastNamed_eq_none hhead]
    exact .none
  | some s =>
    -- what is there had a head, which comes from the last declaration of the name
    rw [hget, Option.map_some, head?, eq_comm, Option.map_eq_some_iff] at hhead
    obtain ⟨s₀, hget₀, hs₀⟩ := hhead
    obtain ⟨d, hd, hkey, head, hmirrors, rfl⟩ := hheads.of_get? hget₀
    -- references are resolved among the first heads, which are those of the model itself
    have hsame : ∀ k, head? ⟨scope.enums, t⟩ k = scope.head? k := h.heads
    have hmembers := (h.members k s hget).of_heads hsame fun _ => rfl
    have hproperties := hmembers.properties
    have hfunctions := hmembers.functions
    rw [hd] at hproperties hfunctions ⊢
    exact .some ⟨hs₀ ▸ hmirrors, hkey ▸ hmembers.parent, hproperties, hfunctions⟩

/-- A model says what its dump declares. -/
theorem ofDump_mirrors {dump : Dump} (h : ofDump dump = .ok m) : m.Mirrors dump := by
  simp only [ofDump, bind_eq_ok] at h
  -- the three passes: enums, heads of structs, and members of structs
  obtain ⟨enums, henums, heads, hheads, structs, hstructs, heq⟩ := h
  obtain rfl := Except.ok.inj heq
  obtain ⟨enumsNamed, hlastEnums⟩ := holdsLast_enums henums
  obtain ⟨structsNamed, hlastHeads⟩ := holdsLast_structs hheads
  -- the second pass leaves heads only
  have hstart : Resolved ⟨enums, heads⟩ [] heads := by
    refine Resolved.start fun k s hget => ?_
    obtain ⟨-, -, -, head, -, rfl⟩ := hlastHeads.of_get? hget
    exact ⟨head, rfl⟩
  -- the third pass finds every name that it looks up
  have hdone : Resolved ⟨enums, heads⟩ dump.namedStructs structs := by
    refine Resolved.all (fun d hd hnone => ?_) hstart hstructs
    exact hlastHeads.get?_eq_none.mp hnone (List.mem_map_of_mem hd)
  have hlast := hdone.holdsLast hlastHeads
  refine ⟨enumsNamed, structsNamed, hlastEnums, hlast, fun k e hget => ?_, fun k s hget => ?_⟩
  · -- the name of what is registered has the key of its declaration, which is that of the entry
    obtain ⟨d, -, hkey, he⟩ := hlastEnums.of_get? hget
    rw [he.2.1, hkey]
  · obtain ⟨d, -, hkey, hs⟩ := hlast.of_get? hget
    rw [hs.head.name, hkey]

end Model

end ScriptBindings

import ScriptBindings.Model.Resolve
import ScriptBindings.Proofs.Traversals

/-!
# Resolved parts of a dump

A part of a dump that can be resolved says the same as its declaration: its texts are those that
were given, its flags and its kind are those that were named, and its references lead to what is
registered in the model under the names that were given.

## Key results

- `structOf_eq_ok` / `enumOf_eq_ok`: what a reference leads to
- `Descriptor.resolve_eq_ok`, `Property.resolve_eq_ok`, `HostFunction.resolve_eq_ok`: a part is
  resolved to what mirrors its declaration, and to nothing else
- `Property.Mirrors.of_heads`: only the heads of structs and the enums of a model count
-/

namespace ScriptBindings

variable {m m' scope : Model} {owner : Scalar}

/-! ## References -/

/-- A part that is needed has to be well-formed. -/
theorem Part.require_eq_ok {α : Type} {part : Part α} {a : α} :
    part.require = .ok a ↔ part = .ok a := by
  cases part with
  | error fault => simp [Part.require]
  | ok b => simp [Part.require]

/-- What may be left out is resolved if it is there. -/
theorem resolveOptional_eq_ok {α β : Type} {find : α → Except ModelError β} {given : Option α}
    {found : Option β} :
    resolveOptional find given = .ok found ↔
      Option.Rel (fun a b => find a = .ok b) given found := by
  -- nothing to resolve, or a reference that has to be found
  cases given with
  | none =>
    constructor
    · intro h
      obtain rfl := Except.ok.inj h
      exact .none
    · rintro ⟨⟩
      rfl
  | some a =>
    constructor
    · intro h
      cases ha : find a with
      | error e => simp [resolveOptional, ha] at h
      | ok b =>
        obtain rfl : some b = found := by simpa [resolveOptional, ha] using h
        exact .some ha
    · rintro ⟨ha⟩
      simp [resolveOptional, ha]

namespace Model

/-- What a model tells about the struct or class under a key. -/
def head? (m : Model) (k : Scalar) : Option StructHead :=
  (m.structs.get? k).map fun s => s.toStructHead

/-- The struct or class that a reference leads to. -/
theorem structOf_eq_ok {reference : Part Scalar} {s : Struct} :
    m.structOf reference = .ok s ↔
      ∃ name, reference = .ok name ∧ m.structs.get? name.key = some s := by
  rw [structOf, bind_eq_ok]
  refine exists_congr fun name => and_congr Part.require_eq_ok ?_
  rw [struct]
  -- it is found if and only if something is registered under the key
  cases m.structs.get? name.key with
  | none => simp
  | some found => simp

/-- The enum that a reference leads to. -/
theorem enumOf_eq_ok {reference : Part Scalar} {e : EnumType} :
    m.enumOf reference = .ok e ↔
      ∃ name, reference = .ok name ∧ m.enums.get? name.key = some e := by
  rw [enumOf, bind_eq_ok]
  refine exists_congr fun name => and_congr Part.require_eq_ok ?_
  rw [enum]
  cases m.enums.get? name.key with
  | none => simp
  | some found => simp

/-- A reference and what is registered under the name that it gives. -/
def RefersTo {β : Type} (find : Scalar → Option β) (reference : Part Scalar) (found : β) : Prop :=
  ∃ name, reference = .ok name ∧ find name.key = some found

end Model

/-- The kind that is named. -/
theorem PropertyKind.resolve_eq_ok {given : Json} {kind : PropertyKind} :
    PropertyKind.resolve given = .ok kind ↔ given = .text kind.label := by
  constructor
  · intro h
    -- only a text can be a label, and only if some kind has it
    unfold resolve at h
    split at h
    · rename_i label
      split at h
      · rename_i found hfound
        obtain rfl := Except.ok.inj h
        have hlabel := List.find?_some hfound
        rw [of_decide_eq_true hlabel]
      · exact nomatch h
    · exact nomatch h
  · rintro rfl
    -- every label is that of its own kind
    cases kind <;> rfl

/-! ## Properties -/

/-- What a property of `owner` tells about itself says the same as its declaration, and its
    references lead to what is registered in the model. -/
structure Descriptor.Mirrors (m : Model) (owner : Scalar) (d : DescriptorDecl) (h : Descriptor) :
    Prop where
  name : h.name = d.name
  kind : d.kind = .text h.kind.label
  flags : PropertyFlag.resolve d.flags = .ok h.flags
  struct : Option.Rel (Model.RefersTo m.head?) d.struct h.struct
  classInfo : Option.Rel (Model.RefersTo m.head?) d.classInfo h.classInfo
  enum : Option.Rel (Model.RefersTo m.enums.get?) d.enum h.enum
  owner : h.owner = owner
  tooltip : h.tooltip = d.tooltip
  category : h.category = d.category

/-- A property of `owner` says the same as its declaration, at every depth. -/
inductive Property.Mirrors (m : Model) (owner : Scalar) : PropertyDecl → Property → Prop
  | plain {d : DescriptorDecl} {h : Descriptor} :
      Descriptor.Mirrors m owner d h → Mirrors m owner (.plain d) (.plain h)
  | containing {d : DescriptorDecl} {h : Descriptor} {element : PropertyDecl} {p : Property} :
      Descriptor.Mirrors m owner d h → Mirrors m owner element p →
        Mirrors m owner (.containing d element) (.containing h p)

/-- A function of `owner` says the same as its declaration. -/
structure HostFunction.Mirrors (m : Model) (owner : Scalar) (d : FunctionDecl) (f : HostFunction) :
    Prop where
  name : f.name = d.name
  params : List.Forall₂ (Property.Mirrors m owner) d.params f.params
  result : Option.Rel (Property.Mirrors m owner) d.result f.result
  staticMark : f.staticMark = d.staticMark
  tooltip : f.tooltip = d.tooltip
  category : f.category = d.category

/-- A declaration of a function that is well-formed, and a function that says the same. -/
def HostFunction.MirrorsPart (m : Model) (owner : Scalar) (part : Part FunctionDecl)
    (f : HostFunction) : Prop :=
  ∃ d, part = .ok d ∧ HostFunction.Mirrors m owner d f

/-- References to structs are resolved to the heads that are registered. -/
private theorem rel_structOf {given : Option (Part Scalar)} {found : Option StructHead} :
    (∃ s, resolveOptional m.structOf given = .ok s ∧ s.map Struct.toStructHead = found) ↔
      Option.Rel (Model.RefersTo m.head?) given found := by
  simp only [resolveOptional_eq_ok]
  -- resolving finds the struct, of which the property keeps the head
  constructor
  · rintro ⟨s, hrel, rfl⟩
    cases hrel with
    | none => exact .none
    | some hs =>
      obtain ⟨name, hname, hget⟩ := Model.structOf_eq_ok.mp hs
      exact .some ⟨name, hname, by rw [Model.head?, hget]; rfl⟩
  · -- a head is that of a struct, so the struct can be found
    intro hrel
    cases hrel with
    | none => exact ⟨none, .none, rfl⟩
    | some hs =>
      obtain ⟨name, hname, hhead⟩ := hs
      obtain ⟨s, hget, rfl⟩ := Option.map_eq_some_iff.mp hhead
      exact ⟨some s, .some (Model.structOf_eq_ok.mpr ⟨name, hname, hget⟩), rfl⟩

/-- References to enums are resolved to the enums that are registered. -/
private theorem rel_enumOf {given : Option (Part Scalar)} {found : Option EnumType} :
    resolveOptional m.enumOf given = .ok found ↔
      Option.Rel (Model.RefersTo m.enums.get?) given found := by
  -- the enum itself is kept, so both directions go through the same reference
  rw [resolveOptional_eq_ok]
  exact ⟨fun h => h.imp fun _ _ => Model.enumOf_eq_ok.mp,
    fun h => h.imp fun _ _ => Model.enumOf_eq_ok.mpr⟩

/-- What a property tells about itself is resolved to what mirrors it. -/
theorem Descriptor.resolve_eq_ok {d : DescriptorDecl} {h : Descriptor} :
    Descriptor.resolve m owner d = .ok h ↔ Descriptor.Mirrors m owner d h := by
  -- every step of the resolution is read as what it asks of its part
  simp only [resolve, bind_eq_ok, PropertyKind.resolve_eq_ok]
  constructor
  · -- what the steps have found, put together, is the property
    rintro ⟨kind, hkind, flags, hflags, s, hs, c, hc, e, he, heq⟩
    obtain rfl := Except.ok.inj heq
    exact ⟨rfl, hkind, hflags, rel_structOf.mp ⟨s, hs, rfl⟩, rel_structOf.mp ⟨c, hc, rfl⟩,
      rel_enumOf.mp he, rfl, rfl, rfl⟩
  · intro hm
    -- the heads come from structs, which the resolution has to find first
    obtain ⟨s, hs, hstruct⟩ := rel_structOf.mpr hm.struct
    obtain ⟨c, hc, hclass⟩ := rel_structOf.mpr hm.classInfo
    refine ⟨h.kind, hm.kind, h.flags, hm.flags, s, hs, c, hc, h.enum, rel_enumOf.mpr hm.enum, ?_⟩
    rw [hstruct, hclass, ← hm.name, ← hm.owner, ← hm.tooltip, ← hm.category]
    rfl

/-- A property is resolved to what mirrors it. -/
theorem Property.resolve_eq_ok {d : PropertyDecl} {p : Property} :
    Property.resolve m owner d = .ok p ↔ Property.Mirrors m owner d p := by
  -- induction on the levels of the declaration
  induction d generalizing p with
  | malformed fault =>
    simp only [resolve, reduceCtorEq, false_iff]
    rintro ⟨⟩
  | plain head =>
    simp only [resolve, map_eq_ok, Descriptor.resolve_eq_ok]
    constructor
    · rintro ⟨h, hm, rfl⟩
      exact .plain hm
    · rintro ⟨hm⟩
      exact ⟨_, hm, rfl⟩
  | containing head element ih =>
    -- the elements are resolved like any property, which the hypothesis covers
    simp only [resolve, bind_eq_ok, Descriptor.resolve_eq_ok, ih]
    constructor
    · rintro ⟨h, hm, e, he, heq⟩
      obtain rfl := Except.ok.inj heq
      exact .containing hm he
    · rintro (_ | ⟨hm, he⟩)
      exact ⟨_, hm, _, he, rfl⟩

/-- A function is resolved to what mirrors it. -/
theorem HostFunction.resolve_eq_ok {part : Part FunctionDecl} {f : HostFunction} :
    HostFunction.resolve m owner part = .ok f ↔ HostFunction.MirrorsPart m owner part f := by
  simp only [resolve, bind_eq_ok, Part.require_eq_ok, mapM_eq_ok, resolveOptional_eq_ok,
    Property.resolve_eq_ok]
  -- both sides are about the same declaration
  refine exists_congr fun d => and_congr Iff.rfl ?_
  constructor
  · -- the steps give the parts of the function one by one
    rintro ⟨params, hparams, result, hresult, heq⟩
    obtain rfl := Except.ok.inj heq
    exact ⟨rfl, hparams, hresult, rfl, rfl, rfl⟩
  · intro hm
    -- a function that mirrors the declaration has the parts that the steps find
    refine ⟨f.params, hm.params, f.result, hm.result, ?_⟩
    rw [← hm.name, ← hm.staticMark, ← hm.tooltip, ← hm.category]
    rfl

/-! ## What counts of a model -/

section Heads

variable (hheads : ∀ k, m'.head? k = m.head? k)
  (henums : ∀ k, m'.enums.get? k = m.enums.get? k)

include hheads henums

/-- Of a model, only the heads of structs and the enums count. -/
theorem Descriptor.Mirrors.of_heads {d : DescriptorDecl} {h : Descriptor}
    (hm : Descriptor.Mirrors m owner d h) : Descriptor.Mirrors m' owner d h := by
  -- the model shows in two functions only, which are the same for both
  have hstructs : m'.head? = m.head? := funext hheads
  have henum : m'.enums.get? = m.enums.get? := funext henums
  exact ⟨hm.name, hm.kind, hm.flags, hstructs ▸ hm.struct, hstructs ▸ hm.classInfo,
    henum ▸ hm.enum, hm.owner, hm.tooltip, hm.category⟩

/-- Of a model, only the heads of structs and the enums count. -/
theorem Property.Mirrors.of_heads {d : PropertyDecl} {p : Property}
    (hm : Property.Mirrors m owner d p) : Property.Mirrors m' owner d p := by
  -- induction on the levels, which all belong to the same owner
  induction hm with
  | plain hd => exact .plain (hd.of_heads hheads henums)
  | containing hd _ ih => exact .containing (hd.of_heads hheads henums) ih

/-- Of a model, only the heads of structs and the enums count. -/
theorem HostFunction.Mirrors.of_heads {d : FunctionDecl} {f : HostFunction}
    (hm : HostFunction.Mirrors m owner d f) : HostFunction.Mirrors m' owner d f := by
  have hresult := hm.result.imp fun _ _ h => Property.Mirrors.of_heads hheads henums h
  exact ⟨hm.name, hm.params.imp fun _ _ h => h.of_heads hheads henums, hresult, hm.staticMark,
    hm.tooltip, hm.category⟩

/-- Of a model, only the heads of structs and the enums count. -/
theorem HostFunction.MirrorsPart.of_heads {part : Part FunctionDecl} {f : HostFunction}
    (hm : HostFunction.MirrorsPart m owner part f) : HostFunction.MirrorsPart m' owner part f := by
  obtain ⟨d, hd, hf⟩ := hm
  exact ⟨d, hd, hf.of_heads hheads henums⟩

end Heads

end ScriptBindings

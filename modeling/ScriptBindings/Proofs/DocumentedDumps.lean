import ScriptBindings.Proofs.DescribedDumps

/-!
# Dumps of the documented shape

In a dump of the documented shape, declarations are objects, and what they must have is there:
enums, structs and functions have a text as their name, and properties have a text as their kind.
Lists hold what they are to hold, references are texts, and elements are described by properties.
Nothing in such a dump is malformed, so whether it is a model depends on its flags, kinds and
references alone.

## Key results

- `Json.IsProperty.reported`, `Json.IsFunction.reported`: what can be wrong with members
- `Json.IsDump.reported`: what can be wrong with a dump
- `Model.ofJson_consistent`: a dump is accepted if it is consistent, and refused for its first fault
-/

namespace ScriptBindings

/-! ## Shapes -/

namespace Json

/-- A text. -/
def IsText (j : Json) : Prop := ∃ s, j = text s

/-- A value in which a member, if it is there, is a list of what has a property. -/
def Lists (P : Json → Prop) (j : Json) (field : String) : Prop :=
  ∀ v, j.member? field = some v → ∃ items, v = array items ∧ ∀ item ∈ items, P item

/-- A member that is not there is no other list. -/
theorem Lists.of_none {P : Json → Prop} {j : Json} {field : String}
    (h : j.member? field = none) : j.Lists P field :=
  fun _ hv => nomatch h.symm.trans hv

/-- A member that is a list of the right elements. -/
theorem Lists.of_array {P : Json → Prop} {j : Json} {field : String} {items : List Json}
    (h : j.member? field = some (array items)) (hitems : ∀ item ∈ items, P item) :
    j.Lists P field :=
  fun _ hv => ⟨items, Option.some.inj (hv.symm.trans h), hitems⟩

/-- The declaration of a property; what describes its elements is one, too. -/
inductive IsProperty : Json → Prop
  | intro {members : List (String × Json)} {kind : String} :
      (object members).member? "kind" = some (text kind) →
      (object members).Lists IsText "flags" →
      (∀ field ∈ ["struct", "class", "enum"], ∀ v,
        (object members).member? field = some v → v.IsText) →
      (∀ v, (object members).member? "inner" = some v → IsProperty v) →
      IsProperty (object members)

/-- The declaration of a function. An empty value in the place of what it returns counts for
    nothing. -/
structure IsFunction (j : Json) : Prop where
  isObject : ∃ members, j = object members
  name : ∃ name, j.member? "name" = some (text name)
  params : j.Lists IsProperty "params"
  result : ∀ v, j.member? "return" = some v → v.isTelling → v.IsProperty

/-- The declaration of a struct or class. An empty super counts for nothing. -/
structure IsStruct (j : Json) : Prop where
  isObject : ∃ members, j = object members
  name : ∃ name, j.member? "name" = some (text name)
  flags : j.Lists IsText "flags"
  parent : ∀ v, j.member? "super" = some v → v.isTelling → v.IsText
  properties : j.Lists IsProperty "properties"
  functions : j.Lists IsFunction "functions"

/-- The declaration of an enum. -/
structure IsEnum (j : Json) : Prop where
  isObject : ∃ members, j = object members
  name : ∃ name, j.member? "name" = some (text name)
  items : j.Lists IsText "items"

/-- A dump. -/
structure IsDump (j : Json) : Prop where
  isObject : ∃ members, j = object members
  enums : j.Lists IsEnum "enums"
  structs : j.Lists IsStruct "structs"

end Json

/-! ## Reported faults -/

variable {α : Type} {dump : Dump}

/-- A list that has the documented elements is read element by element. -/
theorem Part.forall_listOf {P : Json → Prop} {Q : α → Prop} {element : Json → α}
    {faulty : Malformed → α} {j : Json} {field : String} (h : j.Lists P field)
    (hQ : ∀ v, P v → Q (element v)) : ∀ a ∈ Part.listOf element faulty (j.member? field), Q a := by
  cases hv : j.member? field with
  | none => exact fun a ha => nomatch ha
  | some v =>
    obtain ⟨items, rfl, hitems⟩ := h v hv
    intro a ha
    obtain ⟨item, hitem, rfl⟩ := List.mem_map.mp ha
    exact hQ item (hitems item hitem)

/-- The flags of a declaration are reported. -/
theorem Flag.reported {unknown : String → ModelError} {members : List String} {j : Json}
    (hunknown : ∀ name fault, unknown name ≠ .malformed fault) (h : j.Lists Json.IsText "flags") :
    Reported (faults unknown members (Part.flagsOf j)) := by
  -- each flag is one check of its own, since the shape makes it a text
  refine Reported.flatMap_iff.mpr (Part.forall_listOf h ?_)
  rintro _ ⟨name, rfl⟩
  exact .check (hunknown name)

/-- A reference to a struct is reported if it is a text. -/
theorem Dump.structFaults_reported {j : Json} (h : j.IsText) :
    Reported (dump.structFaults (Part.nameOf j)) := by
  obtain ⟨s, rfl⟩ := h
  exact .check (by simp)

/-- A reference to an enum is reported if it is a text. -/
theorem Dump.enumFaults_reported {j : Json} (h : j.IsText) :
    Reported (dump.enumFaults (Part.nameOf j)) := by
  obtain ⟨s, rfl⟩ := h
  exact .check (by simp)

/-- What is wrong with a property of the documented shape is reported. -/
theorem Json.IsProperty.reported {j : Json} (h : j.IsProperty) :
    Reported ((PropertyDecl.ofJson j).faults dump) := by
  -- induction on the shape: its hypothesis is about what describes the elements
  induction h with
  | @intro members kind hkind hflags hreferences _ ih =>
    -- a reference that is not there is none, and one that is there is a text
    have hreference : ∀ field ∈ ["struct", "class", "enum"], ∀ faultsOf : Part Scalar → _,
        (∀ v, v.IsText → Reported (faultsOf (Part.nameOf v))) →
          Reported ((((object members).member? field).map Part.nameOf).elim [] faultsOf) := by
      intro field hfield faultsOf hfaults
      refine Reported.elim_iff.mpr fun reference hmem => ?_
      obtain ⟨v, hv, rfl⟩ := Option.map_eq_some_iff.mp hmem
      exact hfaults v (hreferences field hfield v hv)
    -- the head is read because the kind is a text
    obtain ⟨head, hhead, hreported⟩ : ∃ head, DescriptorDecl.ofMembers members = .ok head ∧
        Reported (head.faults dump) := by
      refine ⟨_, by rw [DescriptorDecl.ofMembers, Part.field, hkind]; rfl, ?_⟩
      simp only [DescriptorDecl.faults, Reported.append_iff]
      -- the five groups of faults, in the order in which the head lists them
      refine ⟨⟨⟨⟨.check (by simp), ?_⟩, ?_⟩, ?_⟩, ?_⟩
      · exact Flag.reported (by simp) hflags
      · exact hreference _ (by simp) _ fun _ => Dump.structFaults_reported
      · exact hreference _ (by simp) _ fun _ => Dump.structFaults_reported
      · exact hreference _ (by simp) _ fun _ => Dump.enumFaults_reported
    -- the faults of the head come first, then those of the elements
    simp only [PropertyDecl.ofJson, hhead, PropertyDecl.elementOf_eq]
    cases hinner : (object members).member? "inner" with
    | none => exact hreported
    | some inner => exact Reported.append_iff.mpr ⟨hreported, ih inner hinner⟩

/-- What is wrong with a function of the documented shape is reported. -/
theorem Json.IsFunction.reported {j : Json} (h : j.IsFunction) :
    Reported ((FunctionDecl.ofJson j).faults (FunctionDecl.faults dump)) := by
  obtain ⟨members, rfl⟩ := h.isObject
  obtain ⟨name, hname⟩ := h.name
  -- the name is a text, so the function is read and has the faults of its parts
  simp only [FunctionDecl.ofJson, Part.field, hname]
  refine Reported.append_iff.mpr ⟨?_, Reported.elim_iff.mpr fun p hp => ?_⟩
  · exact Reported.flatMap_iff.mpr (Part.forall_listOf h.params fun _ => IsProperty.reported)
  · -- a value that tells nothing is not read, so the shape need not say anything about it
    obtain ⟨v, hv, rfl⟩ := Option.map_eq_some_iff.mp hp
    obtain ⟨hv, htelling⟩ := Option.filter_eq_some_iff.mp hv
    exact (h.result v hv htelling).reported

/-- The declaration of a struct of the documented shape is read, with the text that it is called
    by. -/
theorem Json.IsStruct.read {j : Json} (h : j.IsStruct) :
    ∃ name d, j.member? "name" = some (text name) ∧ StructDecl.ofJson j = .ok d ∧
      d.name = .ok (.text name) := by
  obtain ⟨members, rfl⟩ := h.isObject
  obtain ⟨name, hname⟩ := h.name
  -- every member but the name has a part for what cannot be read, so the name alone decides
  exact ⟨name, _, hname, by simp only [StructDecl.ofJson, Part.field, hname]; rfl, rfl⟩

/-- What is wrong with the head of a struct of the documented shape is reported. -/
theorem Json.IsStruct.reported_head {j : Json} (h : j.IsStruct) :
    Reported ((StructDecl.ofJson j).faults StructDecl.headFaults) := by
  obtain ⟨members, rfl⟩ := h.isObject
  obtain ⟨name, hname⟩ := h.name
  -- reading the name leaves the flags, and the name itself has no faults
  simp only [StructDecl.ofJson, Part.field, hname]
  exact Reported.append_iff.mpr ⟨Flag.reported (by simp) h.flags, .nil⟩

/-- What is wrong with the members of a struct of the documented shape is reported. -/
theorem Json.IsStruct.reported_members {j : Json} (h : j.IsStruct) :
    Reported ((StructDecl.ofJson j).faults (StructDecl.memberFaults dump)) := by
  obtain ⟨members, rfl⟩ := h.isObject
  obtain ⟨name, hname⟩ := h.name
  simp only [StructDecl.ofJson, Part.field, hname]
  -- the super, the properties and the functions, in the order of the faults
  refine Reported.append_iff.mpr ⟨Reported.append_iff.mpr
    ⟨Reported.elim_iff.mpr fun reference hmem => ?_, ?_⟩, ?_⟩
  · -- an empty super has been filtered out, so the one that is left is a text
    obtain ⟨v, hv, rfl⟩ := Option.map_eq_some_iff.mp hmem
    obtain ⟨hv, htelling⟩ := Option.filter_eq_some_iff.mp hv
    exact Dump.structFaults_reported (h.parent v hv htelling)
  · exact Reported.flatMap_iff.mpr (Part.forall_listOf h.properties fun _ => IsProperty.reported)
  · exact Reported.flatMap_iff.mpr (Part.forall_listOf h.functions fun _ => IsFunction.reported)

/-- An enum of the documented shape is read, with the text that it is called by. -/
theorem Json.IsEnum.read {j : Json} (h : j.IsEnum) :
    ∃ name e, j.member? "name" = some (text name) ∧ EnumType.ofJson j = .ok e ∧
      e.name = .text name := by
  obtain ⟨members, rfl⟩ := h.isObject
  obtain ⟨name, hname⟩ := h.name
  -- items are read whole, or there are none
  have hitems : ∃ items, EnumType.itemsOf (object members) = .ok items := by
    rw [EnumType.itemsOf]
    cases hv : (object members).member? "items" with
    | none => exact ⟨[], rfl⟩
    | some v =>
      obtain ⟨items, rfl, -⟩ := h.items v hv
      exact ⟨items, rfl⟩
  obtain ⟨items, hitems⟩ := hitems
  exact ⟨name, _, hname,
    by simp only [EnumType.ofJson, Part.field, hname, Part.nameOf, hitems]; rfl, rfl⟩

/-- An enum of the documented shape has no faults. -/
theorem Json.IsEnum.reported {j : Json} (h : j.IsEnum) :
    Reported ((EnumType.ofJson j).faults fun _ => []) := by
  obtain ⟨-, e, -, he, -⟩ := h.read
  rw [he]
  exact .nil

/-- A dump of the documented shape is read, and what is wrong with it is reported. -/
theorem Json.IsDump.reported {j : Json} (h : j.IsDump) :
    ∃ dump, Dump.ofJson j = .ok dump ∧ Reported dump.faults := by
  obtain ⟨members, rfl⟩ := h.isObject
  -- reading never fails for an object, since faulty members become faulty parts
  refine ⟨_, rfl, ?_⟩
  simp only [Dump.faults, Reported.append_iff, Reported.flatMap_iff]
  -- enums, then the heads of all structs, then their members
  refine ⟨⟨?_, ?_⟩, ?_⟩
  · exact Part.forall_listOf h.enums fun _ => IsEnum.reported
  · exact Part.forall_listOf h.structs fun _ => IsStruct.reported_head
  · exact Part.forall_listOf h.structs fun _ => IsStruct.reported_members

/-! ## Acceptance -/

/-- A dump of the documented shape is accepted if all flags, kinds and references that are named in
    its members are known. Otherwise it is refused for the first one that is not, which is reported
    as such. -/
theorem Model.ofJson_consistent {j : Json} (h : j.IsDump) :
    ∃ dump, Dump.ofJson j = .ok dump ∧ j.Describes dump ∧
      ((∃ m, ofJson j = .ok m) ↔ dump.IsConsistent) ∧
      (∀ e, ofJson j = .error e ↔ dump.faults.head? = some e) ∧
      Reported dump.faults := by
  obtain ⟨dump, hdump, hreported⟩ := h.reported
  -- the reader and what follows it are taken apart, so all else is about the dump that is read
  have hsame : ofJson j = ofDump dump := by
    rw [ofJson, hdump]
    rfl
  -- the first fault decides, and without faults the dump is consistent
  have hfirst := ofDump_firstFault dump
  rw [hsame]
  exact ⟨dump, hdump, Dump.describes hdump hreported,
    hfirst.succeeds.trans Dump.faults_eq_nil, hfirst, hreported⟩

/-- A dump with an unknown super, an unknown enum two levels deep and, later on, an unknown flag. -/
def Json.refused : Json :=
  object [("structs", array [
    object [("name", text "Pawn"), ("super", text "Missing"),
      ("properties", array [object [("kind", text "array"),
        ("inner", object [("kind", text "enum"), ("enum", text "Nope")])]])],
    object [("name", text "Actor"), ("flags", array [text "shiny"])]])]

/-- The dump has the documented shape. -/
theorem Json.refused_isDump : refused.IsDump := by
  -- the shape is shown from the inside out
  have hinner : IsProperty (object [("kind", text "enum"), ("enum", text "Nope")]) := by
    refine .intro rfl (.of_none rfl) ?_ fun v hv => (Option.some_ne_none v hv.symm).elim
    simp [member?, Table.findPair, IsText]
  have hproperty : IsProperty (object [("kind", text "array"),
      ("inner", object [("kind", text "enum"), ("enum", text "Nope")])]) := by
    refine .intro rfl (.of_none rfl) ?_ fun v hv => Option.some.inj hv ▸ hinner
    simp [member?, Table.findPair]
  refine ⟨⟨_, rfl⟩, .of_none rfl, .of_array rfl (List.forall_mem_cons.mpr ⟨?_, ?_⟩)⟩
  · exact {
      isObject := ⟨_, rfl⟩
      name := ⟨_, rfl⟩
      flags := .of_none rfl
      parent := fun v hv _ => ⟨"Missing", (Option.some.inj hv).symm⟩
      properties := .of_array rfl (List.forall_mem_singleton.mpr hproperty)
      functions := .of_none rfl }
  · refine List.forall_mem_singleton.mpr {
      isObject := ⟨_, rfl⟩
      name := ⟨_, rfl⟩
      flags := .of_array rfl (List.forall_mem_singleton.mpr ⟨"shiny", rfl⟩)
      parent := fun v hv _ => (Option.some_ne_none v hv.symm).elim
      properties := .of_none rfl
      functions := .of_none rfl }

/-- The flag is reported, since the flags of all structs are looked at before any super. -/
theorem Model.ofJson_consistent_refused :
    Json.refused.IsDump ∧ ofJson Json.refused = .error (.unknownStructFlag "shiny") ∧
      ∃ dump, Dump.ofJson Json.refused = .ok dump ∧ Json.refused.Describes dump ∧
        ((∃ m, ofJson Json.refused = .ok m) ↔ dump.IsConsistent) ∧
        (∀ e, ofJson Json.refused = .error e ↔ dump.faults.head? = some e) ∧
        Reported dump.faults :=
  ⟨Json.refused_isDump, rfl, ofJson_consistent Json.refused_isDump⟩

end ScriptBindings

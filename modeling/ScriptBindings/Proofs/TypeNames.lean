import ScriptBindings.ScriptType

/-!
# Types of properties and their names

The type of a property decides where its name comes from: from the class, the struct or the enum
that the property refers to, or from the name of its elements. All of these may be missing. A
property gets a type that needs one of them only if it is there, so no name is looked for in vain.

## Key results

- `Descriptor.scriptType_eq_object`, `Descriptor.scriptType_eq_struct`,
  `Descriptor.scriptType_eq_enum`, `Property.scriptType_eq_list`: the types that need something
- `Property.displayName?_eq`: what a name needs is always there
- `Property.displayName_justified`: where the name of a type comes from
-/

namespace ScriptBindings

/-! ## Structs -/

namespace StructHead

variable {s : StructHead}

/-- The struct is a built-in type of the script language. -/
def IsBuiltIn (s : StructHead) : Prop := ∃ e ∈ ScriptType.ofStructName, s.name = .text e.1

/-- Built-in types have names of their own. -/
private theorem ne_struct_of_builtIn : ∀ e ∈ ScriptType.ofStructName,
    e.2 ∉ [ScriptType.none, .struct, .object, .enum, .list] := by decide

/-- A struct is a built-in type; or else it is exported as a struct, or not at all. -/
theorem scriptType_cases (s : StructHead) :
    s.IsBuiltIn ∧ s.scriptType ∉ [ScriptType.none, .struct, .object, .enum, .list] ∨
      ¬ s.IsBuiltIn ∧ s.scriptType = if s.isExportable then .struct else .none := by
  -- only a text is looked up in the table of built-in types
  unfold scriptType
  cases hname : s.name with
  | text name =>
    cases hlookup : ScriptType.ofStructName.lookup name with
    | some t =>
      -- found in the table, under this name
      obtain ⟨before, after, heq, -⟩ := List.lookup_eq_some_iff.mp hlookup
      have hmem : (name, t) ∈ ScriptType.ofStructName := by rw [heq]; simp
      refine .inl ⟨⟨(name, t), hmem, hname⟩, ?_⟩
      simp only [hlookup, Option.getD_some]
      exact ne_struct_of_builtIn (name, t) hmem
    | none =>
      refine .inr ⟨?_, by simp only [hlookup, Option.getD_none]⟩
      rintro ⟨e, he, heq⟩
      -- a built-in type of that name would have been found
      obtain rfl : name = e.1 := Scalar.text.inj (hname.symm.trans heq)
      have hno := List.lookup_eq_none_iff.mp hlookup e he
      simp at hno
  | null | bool | int | real =>
    refine .inr ⟨?_, rfl⟩
    rintro ⟨e, -, heq⟩
    exact nomatch hname.symm.trans heq

/-- The structs that are exported as such. -/
theorem scriptType_eq_struct :
    s.scriptType = .struct ↔ ¬ s.IsBuiltIn ∧ s.isExportable = true := by
  -- built-in types have other types, which the table shows
  rcases s.scriptType_cases with ⟨hbuiltIn, hother⟩ | ⟨hplain, htype⟩
  · constructor
    · intro h
      rw [h] at hother
      exact absurd hother (by decide)
    · exact fun h => absurd hbuiltIn h.1
  · rw [htype]
    by_cases hexport : s.isExportable = true
    · simp [hplain, hexport]
    · simp [hexport]

/-- A struct is neither an object nor an enum nor a list. -/
theorem scriptType_not_mem (s : StructHead) :
    s.scriptType ∉ [ScriptType.object, .enum, .list] := by
  -- a built-in type is none of these, and the others are structs or nothing
  rcases s.scriptType_cases with ⟨-, hother⟩ | ⟨-, htype⟩
  · exact fun hmem => hother (List.mem_cons_of_mem _ (List.mem_cons_of_mem _ hmem))
  · rw [htype]
    split
    · decide
    · decide

/-- A struct that can be exported is no class. -/
theorem isExportable_iff :
    s.isExportable = true ↔
      s.isClass = false ∧ (.hasDefaults ∈ s.flags ∨ .requiredApi ∈ s.flags) := by
  simp [isExportable, hasAny]

/-- The class gives access to its class object. -/
theorem hasStaticClass_iff :
    s.hasStaticClass = true ↔ .requiredApi ∈ s.flags ∨ .minimalApi ∈ s.flags := by
  simp [hasStaticClass, hasAny]

end StructHead

/-! ## Types that need something -/

namespace Descriptor

variable {d : Descriptor} {element : ScriptType}

/-- The kind of a property that has a type that needs something. -/
theorem kind_of_scriptType (d : Descriptor) (element : ScriptType) :
    (d.scriptType element = .object → d.kind = .object) ∧
      (d.scriptType element = .struct → d.kind = .struct) ∧
      (d.scriptType element = .enum → d.kind = .integer ∨ d.kind = .enum) ∧
      (d.scriptType element = .list → d.kind = .array) := by
  unfold scriptType
  cases hkind : d.kind with
  -- the type of a struct stands for itself, so it has to be told apart from the others
  | struct =>
    have hother : (d.struct.map StructHead.scriptType).getD .none ∉
        [ScriptType.object, .enum, .list] := by
      cases d.struct with
      | none => decide
      | some s => exact s.scriptType_not_mem
    simp only [List.mem_cons, List.not_mem_nil, or_false, not_or] at hother
    exact ⟨fun h => absurd h hother.1, fun _ => rfl, fun h => absurd h hother.2.1,
      fun h => absurd h hother.2.2⟩
  -- the other kinds look for one thing each, and the rest have one type only
  | integer | enum | object | array =>
    simp only
    split
    · simp
    · simp
  | float | string | name | boolean | classReference | other => simp

/-- Objects have a class that is exported. -/
theorem scriptType_eq_object :
    d.scriptType element = .object ↔ d.kind = .object ∧ ∃ c, d.classInfo = some c ∧
      (c.hasStaticClass = true ∨ c.name = StructHead.rootClassName) := by
  constructor
  · intro h
    -- the kind first, then what a property of this kind has to refer to
    have hkind := (d.kind_of_scriptType element).1 h
    refine ⟨hkind, ?_⟩
    simp only [scriptType, hkind] at h
    -- a class is there, and exported because of its marks or as the root of all classes
    cases hclass : d.classInfo with
    | none => simp [hclass] at h
    | some c =>
      refine ⟨c, rfl, ?_⟩
      by_cases hroot : c.name = StructHead.rootClassName
      · exact .inr hroot
      · simpa [hclass, hroot] using h
  · rintro ⟨hkind, c, hclass, hexported⟩
    simp only [scriptType, hkind, hclass]
    rcases hexported with hstatic | hroot
    · simp [hstatic]
    · simp [hroot]

/-- Structs have a struct that is exported as such. -/
theorem scriptType_eq_struct :
    d.scriptType element = .struct ↔ d.kind = .struct ∧
      ∃ s, d.struct = some s ∧ ¬ s.IsBuiltIn ∧ s.isExportable = true := by
  constructor
  · intro h
    -- of this kind, the type is that of the struct, if there is one
    have hkind := (d.kind_of_scriptType element).2.1 h
    refine ⟨hkind, ?_⟩
    simp only [scriptType, hkind] at h
    cases hstruct : d.struct with
    | none => simp [hstruct] at h
    | some s =>
      rw [hstruct] at h
      exact ⟨s, rfl, StructHead.scriptType_eq_struct.mp h⟩
  · rintro ⟨hkind, s, hstruct, hs⟩
    simp only [scriptType, hkind, hstruct]
    exact StructHead.scriptType_eq_struct.mpr hs

/-- Enums have an enum behind them. -/
theorem scriptType_eq_enum :
    d.scriptType element = .enum ↔
      (d.kind = .integer ∨ d.kind = .enum) ∧ ∃ e, d.enum = some e := by
  constructor
  · intro h
    -- two kinds may have an enum, and without it neither has this type
    have hkind := (d.kind_of_scriptType element).2.2.1 h
    refine ⟨hkind, ?_⟩
    cases henum : d.enum with
    | none => rcases hkind with hkind | hkind <;> simp [scriptType, hkind, henum] at h
    | some e => exact ⟨e, rfl⟩
  · rintro ⟨hkind | hkind, e, henum⟩
    · simp [scriptType, hkind, henum]
    · simp [scriptType, hkind, henum]

/-- Lists have elements of a type that is exported and is no list. -/
theorem scriptType_eq_list :
    d.scriptType element = .list ↔ d.kind = .array ∧ element ≠ .none ∧ element ≠ .list := by
  constructor
  · intro h
    -- an array is a list unless its elements rule that out
    have hkind := (d.kind_of_scriptType element).2.2.2 h
    refine ⟨hkind, ?_⟩
    simp only [scriptType, hkind] at h
    rw [← not_or]
    intro hno
    simp [hno] at h
  · rintro ⟨hkind, hnone, hlist⟩
    simp [scriptType, hkind, hnone, hlist]

end Descriptor

namespace Property

variable {p : Property}

/-- The type of a property is that of its head with some type of elements. -/
theorem exists_scriptType (p : Property) : ∃ element, p.scriptType = p.head.scriptType element := by
  cases p with
  | plain d => exact ⟨.none, rfl⟩
  | containing d e => exact ⟨_, rfl⟩

/-- Lists describe elements that are exported and are no lists. -/
theorem scriptType_eq_list :
    p.scriptType = .list ↔ p.head.kind = .array ∧
      ∃ e, p.element? = some e ∧ e.isSupported = true ∧ e.scriptType ≠ .list := by
  -- a property without elements describes no list
  cases p with
  | plain d =>
    rw [scriptType, Descriptor.scriptType_eq_list]
    simp [element?]
  | containing d e =>
    rw [scriptType, Descriptor.scriptType_eq_list]
    have helement : (containing d e).element? = some e := rfl
    rw [helement]
    simp only [Option.some.injEq, exists_eq_left', isSupported]
    refine and_congr Iff.rfl ?_
    -- an element with a mark that rules out its export counts as one without a type
    cases e.head.isExcluded with
    | true => simp
    | false => simp

end Property

/-! ## Names -/

/-- The name of a type in a signature, for a property with `d` as its head and elements that are
    called `element`. A class, a struct, an enum or an element that is not there has no name. -/
def Descriptor.nameOf? (d : Descriptor) (element : Option Scalar) : ScriptType → Option Scalar
  | .object => d.classInfo.map fun c => c.name.className
  | .struct => d.struct.map fun s => s.name.className
  | .enum => d.backingEnum?.map fun e => e.name
  | .list => element.map fun name => .text ("List\x7b" ++ name.shown ++ "\x7d")
  | t => some (.text t.label)

namespace Property

/-- The name of the type of a property, if all is there that its type needs. -/
def displayName? : Property → Option Scalar
  | plain d => d.nameOf? none (plain d).scriptType
  | containing d element => d.nameOf? element.displayName? (containing d element).scriptType

/-- Where a class, a struct or an enum is there if the type needs it, it has a name. -/
theorem nameOf?_eq_labelOf {d : Descriptor} {element : Scalar} {t : ScriptType}
    (hobject : t = .object → d.classInfo.isSome) (hstruct : t = .struct → d.struct.isSome)
    (henum : t = .enum → d.backingEnum?.isSome) :
    d.nameOf? (some element) t = some (labelOf d element t) := by
  -- three types look something up, and the condition is that it is there
  cases t with
  | object =>
    obtain ⟨c, hc⟩ := Option.isSome_iff_exists.mp (hobject rfl)
    simp [Descriptor.nameOf?, labelOf, hc]
  | struct =>
    obtain ⟨s, hs⟩ := Option.isSome_iff_exists.mp (hstruct rfl)
    simp [Descriptor.nameOf?, labelOf, hs]
  | enum =>
    obtain ⟨e, he⟩ := Option.isSome_iff_exists.mp (henum rfl)
    simp [Descriptor.nameOf?, labelOf, he]
  | none | integer | real | boolean | string | vector2 | vector3 | vector4 | rotation
  | rotationAngles | transform | color | name | classReference | list => rfl

/-- The type of a property needs no class, struct or enum that is not there. -/
theorem nameOf?_head {element : Scalar} (p : Property) :
    p.head.nameOf? (some element) p.scriptType = some (labelOf p.head element p.scriptType) := by
  -- the type is that of the head, for which the head has what it needs
  obtain ⟨elementType, htype⟩ := p.exists_scriptType
  rw [htype]
  apply nameOf?_eq_labelOf
  · intro h
    obtain ⟨-, c, hc, -⟩ := Descriptor.scriptType_eq_object.mp h
    simp [hc]
  · intro h
    obtain ⟨-, s, hs, -⟩ := Descriptor.scriptType_eq_struct.mp h
    simp [hs]
  · intro h
    obtain ⟨hkind, e, he⟩ := Descriptor.scriptType_eq_enum.mp h
    simp [Descriptor.backingEnum?, hkind, he]

/-- All is there that the type of a property needs for its name. -/
theorem displayName?_eq (p : Property) : p.displayName? = some p.displayName := by
  -- induction on the levels: a name asks for that of the elements only
  induction p with
  | plain d =>
    -- without elements the type is no list, so their name does not matter
    have hlist : (plain d).scriptType ≠ .list := by
      intro h
      obtain ⟨-, e, he, -⟩ := scriptType_eq_list.mp h
      exact nomatch he
    have hnone : d.nameOf? none (plain d).scriptType =
        d.nameOf? (some (.text "")) (plain d).scriptType := by
      unfold Descriptor.nameOf?
      split
      all_goals first | rfl | contradiction
    exact hnone.trans (nameOf?_head (plain d))
  | containing d e ih =>
    show d.nameOf? e.displayName? (containing d e).scriptType = _
    rw [ih]
    exact nameOf?_head (containing d e)

/-! ## Where a name comes from -/

variable {p : Property}

/-- The name of a type comes from the head of a property and from the name of its elements. -/
theorem displayName_eq_labelOf (p : Property) :
    p.displayName =
      labelOf p.head ((p.element?.map displayName).getD (.text "")) p.scriptType := by
  -- a property without elements has nothing to name
  cases p with
  | plain d => rfl
  | containing d e => rfl

/-- An object goes by the name of its class, which is exported. -/
theorem object_justified (h : p.scriptType = .object) :
    p.head.kind = .object ∧ ∃ c, p.head.classInfo = some c ∧
      (.requiredApi ∈ c.flags ∨ .minimalApi ∈ c.flags ∨ c.name = .text "Object") ∧
      p.displayName = c.name.className := by
  -- what the type needs is there, and the name is read off it
  obtain ⟨element, htype⟩ := p.exists_scriptType
  obtain ⟨hkind, c, hclass, hexported⟩ := Descriptor.scriptType_eq_object.mp (htype ▸ h)
  rw [StructHead.hasStaticClass_iff, or_assoc] at hexported
  refine ⟨hkind, c, hclass, hexported, ?_⟩
  rw [displayName_eq_labelOf, h]
  simp [labelOf, hclass]

/-- A struct goes by its own name; it is exported and no built-in type. -/
theorem struct_justified (h : p.scriptType = .struct) :
    p.head.kind = .struct ∧ ∃ s, p.head.struct = some s ∧
      (.hasDefaults ∈ s.flags ∨ .requiredApi ∈ s.flags) ∧ s.isClass = false ∧ ¬ s.IsBuiltIn ∧
      p.displayName = s.name.className := by
  -- a struct that is exported as such has the marks of one
  obtain ⟨element, htype⟩ := p.exists_scriptType
  obtain ⟨hkind, s, hstruct, hbuiltIn, hexport⟩ :=
    Descriptor.scriptType_eq_struct.mp (htype ▸ h)
  obtain ⟨hclass, hflags⟩ := StructHead.isExportable_iff.mp hexport
  refine ⟨hkind, s, hstruct, hflags, hclass, hbuiltIn, ?_⟩
  rw [displayName_eq_labelOf, h]
  simp [labelOf, hstruct]

/-- An enum goes by its own name. -/
theorem enum_justified (h : p.scriptType = .enum) :
    (p.head.kind = .integer ∨ p.head.kind = .enum) ∧
      ∃ e, p.head.enum = some e ∧ p.displayName = e.name := by
  obtain ⟨element, htype⟩ := p.exists_scriptType
  obtain ⟨hkind, e, henum⟩ := Descriptor.scriptType_eq_enum.mp (htype ▸ h)
  refine ⟨hkind, e, henum, ?_⟩
  rw [displayName_eq_labelOf, h]
  simp [labelOf, Descriptor.backingEnum?, hkind, henum]

/-- A list tells the name of its elements, which are exported and no lists. -/
theorem list_justified (h : p.scriptType = .list) :
    p.head.kind = .array ∧ ∃ e, p.element? = some e ∧ e.isSupported = true ∧
      e.scriptType ≠ .none ∧ e.scriptType ≠ .list ∧
      p.displayName = .text ("List\x7b" ++ e.displayName.shown ++ "\x7d") := by
  -- the elements are exported, so they have a type
  obtain ⟨hkind, e, helement, hsupported, hlist⟩ := scriptType_eq_list.mp h
  have hnone : e.scriptType ≠ .none := by
    intro hnone
    simp [isSupported, hnone] at hsupported
  refine ⟨hkind, e, helement, hsupported, hnone, hlist, ?_⟩
  rw [displayName_eq_labelOf, h, helement]
  rfl

/-- All other types go by their own name. -/
theorem label_justified (h : p.scriptType ∉ [.object, .struct, .enum, .list]) :
    p.displayName = .text p.scriptType.label := by
  rw [displayName_eq_labelOf]
  -- the types that are excluded are those that go by something else
  generalize p.scriptType = t at h ⊢
  cases t with
  | object | struct | enum | list => exact absurd h (by decide)
  | none | integer | real | boolean | string | vector2 | vector3 | vector4 | rotation
  | rotationAngles | transform | color | name | classReference => rfl

/-- A property has a type that needs a class, a struct, an enum or elements only if they are there
    and exported, and so its name is always there: the script name of the class or struct, the name
    of the enum, or one that tells the name of the elements, which are no lists and are exported
    themselves. All other types have a name of their own. -/
theorem displayName_justified (p : Property) :
    p.displayName? = some p.displayName ∧
    (p.scriptType = .object → p.head.kind = .object ∧ ∃ c, p.head.classInfo = some c ∧
      (.requiredApi ∈ c.flags ∨ .minimalApi ∈ c.flags ∨ c.name = .text "Object") ∧
      p.displayName = c.name.className) ∧
    (p.scriptType = .struct → p.head.kind = .struct ∧ ∃ s, p.head.struct = some s ∧
      (.hasDefaults ∈ s.flags ∨ .requiredApi ∈ s.flags) ∧ s.isClass = false ∧ ¬ s.IsBuiltIn ∧
      p.displayName = s.name.className) ∧
    (p.scriptType = .enum → (p.head.kind = .integer ∨ p.head.kind = .enum) ∧
      ∃ e, p.head.enum = some e ∧ p.displayName = e.name) ∧
    (p.scriptType = .list → p.head.kind = .array ∧ ∃ e, p.element? = some e ∧
      e.isSupported = true ∧ e.scriptType ≠ .none ∧ e.scriptType ≠ .list ∧
      p.displayName = .text ("List\x7b" ++ e.displayName.shown ++ "\x7d")) ∧
    (p.scriptType ∉ [.object, .struct, .enum, .list] →
      p.displayName = .text p.scriptType.label) :=
  ⟨p.displayName?_eq, object_justified, struct_justified, enum_justified, list_justified,
    label_justified⟩

end Property

end ScriptBindings

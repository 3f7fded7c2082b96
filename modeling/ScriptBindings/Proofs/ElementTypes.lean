import ScriptBindings.Proofs.TypeNames
import ScriptBindings.Proofs.Traversals

/-!
# Types of elements

The type of an array depends on the type of its elements, and on the marks that rule out an export
of the elements. Elements may be arrays with elements of their own, and so on, but what lies two
levels down decides nothing: an array of arrays has no type, whatever the inner arrays hold. It is
looked at all the same, and there is an end to the room for that.

## Key results

- `Descriptor.scriptType_of_ne_array`: only arrays look at the type of their elements
- `Property.scriptType_eq_list_iff`: which properties are lists
- `Property.scriptType_congr`, `Property.displayName_congr`: what the type of a property and its
  name depend on
- `Property.scriptType_one_level`: all of this together
- `Property.view_eq`: a property is seen with its type unless arrays are nested too deeply in it
-/

namespace ScriptBindings

/-! ## Heads -/

namespace Descriptor

variable {d e : Descriptor} {t u : ScriptType}

/-- Two properties tell the same about their kind and about what they refer to. Their names, owners,
    texts and marks may differ. -/
structure Agrees (d e : Descriptor) : Prop where
  kind : d.kind = e.kind
  struct : d.struct = e.struct
  classInfo : d.classInfo = e.classInfo
  enum : d.enum = e.enum

/-- Agreement goes both ways. -/
theorem Agrees.symm (h : d.Agrees e) : e.Agrees d :=
  ⟨h.kind.symm, h.struct.symm, h.classInfo.symm, h.enum.symm⟩

/-- A property has a mark that rules its export out if it has one of the five. -/
theorem isExcluded_iff :
    d.isExcluded = true ↔ ∃ f ∈ d.flags, f ∈ [PropertyFlag.editorOnly, .lazyReference,
      .weakReference, .softObjectReference, .softClassReference] := by
  unfold isExcluded hasAny
  rw [List.any_eq_true]
  -- the marks are listed in both ways, once by the property and once by the five
  constructor
  · rintro ⟨f, hall, hf⟩
    exact ⟨f, by simpa using hf, hall⟩
  · rintro ⟨f, hf, hall⟩
    exact ⟨f, hall, by simpa using hf⟩

/-- The type of a property only reads its kind and what it refers to. -/
theorem Agrees.scriptType_eq (h : d.Agrees e) (t : ScriptType) :
    d.scriptType t = e.scriptType t := by
  unfold Descriptor.scriptType
  rw [h.kind, h.struct, h.classInfo, h.enum]

/-- Only arrays look at the type of their elements. -/
theorem scriptType_of_ne_array (h : d.kind ≠ .array) (t u : ScriptType) :
    d.scriptType t = d.scriptType u := by
  unfold scriptType
  -- one kind looks at the type of its elements, all others do without it
  cases hkind : d.kind with
  | array => exact absurd hkind h
  | integer | float | string | name | boolean | struct | enum | object | classReference
  | other => rfl

/-- An array is a list or has no type. -/
theorem scriptType_of_array (h : d.kind = .array) (t : ScriptType) :
    d.scriptType t = .list ∨ d.scriptType t = .none := by
  simp only [scriptType, h]
  -- the type of the elements decides, and lists in lists have none
  by_cases ht : t = .none ∨ t = .list
  · rw [if_pos ht]
    exact .inr rfl
  · rw [if_neg ht]
    exact .inl rfl

/-- The name of a type only reads what a property refers to. -/
theorem Agrees.labelOf_eq (h : d.Agrees e) (element : Scalar) (t : ScriptType) :
    Property.labelOf d element t = Property.labelOf e element t := by
  unfold Property.labelOf backingEnum?
  rw [h.kind, h.struct, h.classInfo, h.enum]

/-- Only the names of lists tell the name of elements. -/
theorem labelOf_of_ne_list (h : t ≠ .list) (element other : Scalar) :
    Property.labelOf d element t = Property.labelOf d other t := by
  unfold Property.labelOf
  cases t with
  | list => exact absurd rfl h
  -- the name is that of a class, a struct or an enum, if it is there
  | object => cases d.classInfo <;> rfl
  | struct => cases d.struct <;> rfl
  | enum => cases d.backingEnum? <;> rfl
  | none | integer | real | boolean | string | vector2 | vector3 | vector4 | rotation
  | rotationAngles | transform | color | name | classReference => rfl

end Descriptor

/-! ## Properties -/

namespace Property

variable {p q : Property}

/-- An array is a list or has no type. -/
theorem scriptType_of_array (h : p.head.kind = .array) :
    p.scriptType = .list ∨ p.scriptType = .none := by
  -- the type comes from the head, whatever the elements are
  obtain ⟨t, ht⟩ := p.exists_scriptType
  rw [ht]
  exact Descriptor.scriptType_of_array h t

/-- Two properties that are no arrays have the same type if their heads agree. -/
theorem scriptType_of_ne_array (hhead : p.head.Agrees q.head) (h : p.head.kind ≠ .array) :
    p.scriptType = q.scriptType := by
  obtain ⟨t, ht⟩ := p.exists_scriptType
  obtain ⟨u, hu⟩ := q.exists_scriptType
  rw [ht, hu, Descriptor.scriptType_of_ne_array h t u]
  exact hhead.scriptType_eq u

/-- The element of a list: it is no array itself, and exported. -/
def IsListed (e : Property) : Prop :=
  e.head.kind ≠ .array ∧ e.head.isExcluded = false ∧ e.scriptType ≠ .none

/-- Lists are the arrays that have such an element. -/
theorem scriptType_eq_list_iff :
    p.scriptType = .list ↔ p.head.kind = .array ∧ ∃ e, p.element? = some e ∧ e.IsListed := by
  -- for arrays, being a list is a matter of the element
  rw [scriptType_eq_list]
  refine and_congr_right fun _ => exists_congr fun e => and_congr_right fun _ => ?_
  have hsupported : e.isSupported = true ↔ e.head.isExcluded = false ∧ e.scriptType ≠ .none := by
    simp [isSupported]
  rw [hsupported]
  constructor
  · rintro ⟨⟨hexcluded, hnone⟩, hlist⟩
    refine ⟨fun harray => ?_, hexcluded, hnone⟩
    -- an array that is no list has no type
    rcases scriptType_of_array harray with htype | htype
    · exact hlist htype
    · exact hnone htype
  · -- an element that is no array cannot be a list
    rintro ⟨hkind, hexcluded, hnone⟩
    refine ⟨⟨hexcluded, hnone⟩, fun hlist => ?_⟩
    exact hkind (scriptType_eq_list.mp hlist).1

/-- Two properties agree in their heads, marks apart, and so do their elements, if there are any.
    Marks of elements may differ too, as long as both elements have some that rule out their export,
    or neither has. What the elements hold does not matter. -/
structure AgreesOneLevel (p q : Property) : Prop where
  head : p.head.Agrees q.head
  element : Option.Rel (fun a b => a.head.Agrees b.head ∧ a.head.isExcluded = b.head.isExcluded)
    p.element? q.element?

namespace AgreesOneLevel

variable {a : Property}

/-- Agreement goes both ways. -/
theorem symm (h : p.AgreesOneLevel q) : q.AgreesOneLevel p := by
  -- the relation is turned around element by element
  obtain ⟨hhead, helement⟩ := h
  refine ⟨hhead.symm, ?_⟩
  generalize p.element? = pe, q.element? = qe at helement ⊢
  cases helement with
  | none => exact .none
  | some hagrees => exact .some ⟨hagrees.1.symm, hagrees.2.symm⟩

/-- If one of the two properties has an element, the other one has one that agrees with it. -/
theorem exists_element (h : p.AgreesOneLevel q) (ha : p.element? = some a) :
    ∃ b, q.element? = some b ∧ a.head.Agrees b.head ∧ a.head.isExcluded = b.head.isExcluded := by
  -- the relation between the elements leaves nothing out on one side
  have helement := h.element
  rw [ha] at helement
  generalize q.element? = qe at helement ⊢
  cases helement with
  | some hagrees => exact ⟨_, rfl, hagrees⟩

end AgreesOneLevel

/-- An element that agrees with that of a list may be one too. -/
theorem IsListed.of_agrees {a b : Property} (ha : a.IsListed) (hhead : a.head.Agrees b.head)
    (hexcluded : a.head.isExcluded = b.head.isExcluded) : b.IsListed := by
  obtain ⟨hkind, hmarks, htype⟩ := ha
  -- kind, marks and type of the one are those of the other
  rw [scriptType_of_ne_array hhead hkind] at htype
  rw [hexcluded] at hmarks
  rw [hhead.kind] at hkind
  exact ⟨hkind, hmarks, htype⟩

/-- Two properties that agree are both lists if one of them is. -/
theorem scriptType_eq_list_of_agrees (h : p.AgreesOneLevel q) (hlist : p.scriptType = .list) :
    q.scriptType = .list := by
  -- the element of the list has a counterpart, which can be listed as well
  obtain ⟨hkind, a, ha, hlisted⟩ := scriptType_eq_list_iff.mp hlist
  obtain ⟨b, hb, hhead, hexcluded⟩ := h.exists_element ha
  rw [h.head.kind] at hkind
  apply scriptType_eq_list_iff.mpr
  exact ⟨hkind, b, hb, hlisted.of_agrees hhead hexcluded⟩

/-- The type of a property only reads its head and that of its element. -/
theorem scriptType_congr (h : p.AgreesOneLevel q) : p.scriptType = q.scriptType := by
  by_cases hkind : p.head.kind = .array
  · -- both are lists or have no type, and neither can be a list alone
    have hkind' : q.head.kind = .array := h.head.kind ▸ hkind
    rcases scriptType_of_array hkind with hp | hp
    · rw [hp, scriptType_eq_list_of_agrees h hp]
    · rcases scriptType_of_array hkind' with hq | hq
      · rw [scriptType_eq_list_of_agrees h.symm hq, hq]
      · rw [hp, hq]
  · exact scriptType_of_ne_array h.head hkind

/-- The name of a type that is no list only reads the head of a property. -/
theorem displayName_of_ne_list (hhead : p.head.Agrees q.head) (htype : p.scriptType = q.scriptType)
    (hlist : p.scriptType ≠ .list) : p.displayName = q.displayName := by
  -- both names are put together from the same parts, apart from those of elements
  rw [displayName_eq_labelOf, displayName_eq_labelOf, ← htype, hhead.labelOf_eq]
  exact Descriptor.labelOf_of_ne_list hlist _ _

/-- The name of the type of a property only reads its head and that of its element. -/
theorem displayName_congr (h : p.AgreesOneLevel q) : p.displayName = q.displayName := by
  have htype := scriptType_congr h
  by_cases hlist : p.scriptType = .list
  · obtain ⟨-, a, ha, hlisted⟩ := scriptType_eq_list_iff.mp hlist
    obtain ⟨b, hb, hhead, -⟩ := h.exists_element ha
    -- the element is no array, so its name does not tell what it holds
    have hinner : a.scriptType ≠ .list := fun hinner => hlisted.1 (scriptType_eq_list.mp hinner).1
    have hsame : a.scriptType = b.scriptType := scriptType_of_ne_array hhead hlisted.1
    have hname : a.displayName = b.displayName := displayName_of_ne_list hhead hsame hinner
    rw [displayName_eq_labelOf, displayName_eq_labelOf, ← htype, hlist, ha, hb, Option.map_some,
      Option.map_some, hname]
    exact h.head.labelOf_eq _ _
  · exact displayName_of_ne_list h.head htype hlist

/-- An array is a list if its element is no array, has no mark that rules out its export, and has a
    type; otherwise it has no type. So nothing two levels down makes a difference to the type of a
    property and to its name, and its own marks make one only to whether it is exported. -/
theorem scriptType_one_level (p : Property) :
    (p.scriptType = .list ↔ p.head.kind = .array ∧ ∃ e, p.element? = some e ∧
      e.head.kind ≠ .array ∧
      (∀ f ∈ e.head.flags, f ∉ [PropertyFlag.editorOnly, .lazyReference, .weakReference,
        .softObjectReference, .softClassReference]) ∧
      e.scriptType ≠ .none) ∧
    (p.head.kind = .array → p.scriptType ≠ .list → p.scriptType = .none) ∧
    ∀ q, p.AgreesOneLevel q →
      p.scriptType = q.scriptType ∧ p.displayName = q.displayName ∧
        (p.head.isExcluded = q.head.isExcluded → p.isSupported = q.isSupported) := by
  refine ⟨?_, fun hkind hlist => ?_, fun q h => ⟨scriptType_congr h, displayName_congr h, ?_⟩⟩
  · -- the form of a list is that of the lemma above, with the marks written out
    rw [scriptType_eq_list_iff]
    refine and_congr_right fun _ => exists_congr fun e => and_congr_right fun _ => ?_
    unfold IsListed
    rw [Bool.eq_false_iff, Ne, Ne, Descriptor.isExcluded_iff]
    simp only [not_exists, not_and]
  · -- an array has no other type
    exact (scriptType_of_array hkind).resolve_left hlist
  · intro hexcluded
    rw [isSupported, isSupported, hexcluded, scriptType_congr h]

/-! ## Nested arrays -/

/-- How many elements have to be looked at for the type of a property. Those that an element holds
    which is not exported do not count. -/
def elementCount : Property → Nat
  | plain _ => 0
  | containing d element =>
    if d.kind = .array then (if element.head.isExcluded then 0 else element.elementCount) + 1 else 0

/-- The type that is found where there is room is the type of the property, and the room is used up
    by nothing but its elements. -/
theorem scriptTypeWithin_eq (room : Nat) (p : Property) :
    p.scriptTypeWithin room =
      if p.elementCount ≤ room then .ok p.scriptType else .error .tooDeep := by
  -- each level of the description takes one element off the room
  induction p generalizing room with
  | plain d => rw [scriptTypeWithin, elementCount, if_pos (Nat.zero_le room), scriptType]
  | containing d element ih =>
    by_cases hkind : d.kind = .array
    · -- with no room left, the element cannot be looked at
      cases room with
      | zero => simp [scriptTypeWithin, elementCount, hkind]
      | succ room =>
        -- an element that is not exported ends the search there
        cases hexcluded : element.head.isExcluded with
        | true => simp [scriptTypeWithin, elementCount, scriptType, hkind, hexcluded]
        | false =>
          simp only [scriptTypeWithin, elementCount, scriptType, hkind, hexcluded, ih room,
            Nat.add_le_add_iff_right, if_pos, if_false, Bool.false_eq_true]
          split <;> rfl
    · -- what is no array is not asked for its element
      have hfound : (containing d element).scriptTypeWithin room = .ok (d.scriptType .none) := by
        cases room <;> rw [scriptTypeWithin, if_neg hkind]
      rw [hfound, elementCount, if_neg hkind, if_pos (Nat.zero_le room), scriptType]
      exact congrArg _ (Descriptor.scriptType_of_ne_array hkind _ _)

/-- A property is seen as it is, or not at all if there are too many arrays in each other. -/
theorem view_eq (p : Property) :
    p.view =
      if p.elementCount ≤ maxElements then
        .ok ⟨p.scriptType, p.displayName, p.isSupported, p.head.backingEnum?⟩
      else .error .tooDeep := by
  rw [view, scriptTypeWithin_eq]
  split <;> rfl

end Property

end ScriptBindings

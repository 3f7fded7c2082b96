import ScriptBindings.Proofs.ClosedModel

/-!
# Faults of a dump

Everything that is wrong with a dump, each item looked at by itself and listed in a fixed order: the
enums, then the marks of all structs, and then what each declaration of a struct says about its
super, its properties and its functions. A dump that is no model is refused for the first one of
these faults.

## Key results

- `Flag.resolve_firstFault`: a flag is known if its capitals are the name of a member
- `Descriptor.resolve_firstFault`, `Property.resolve_firstFault`,
  `HostFunction.resolve_firstFault`: what is wrong with members
- `Model.ofDump_firstFault`: what is wrong with a dump
-/

namespace ScriptBindings

variable {α β : Type} {dump : Dump} {scope : Model} {owner : Scalar}

/-! ## Parts -/

/-- What is wrong with a part: its form, or else what is wrong with what it says. -/
def Part.faults (faultsOf : α → List ModelError) : Part α → List ModelError
  | .ok a => faultsOf a
  | .error fault => [.malformed fault]

/-- A part that is needed has its faults before those of what is made of it. -/
theorem Part.firstFault {part : Part α} {f : α → Except ModelError β}
    {faultsOf : α → List ModelError}
    (h : ∀ a, part = .ok a → FirstFault (f a) (faultsOf a)) :
    FirstFault (part.require >>= f) (part.faults faultsOf) := by
  -- a malformed part is its only fault, since nothing is made of it
  cases part with
  | error fault => exact .error _
  | ok a => exact h a rfl

/-- What is left out has no faults. -/
theorem resolveOptional_firstFault {find : α → Except ModelError β} {faultsOf : α → List ModelError}
    (h : ∀ a, FirstFault (find a) (faultsOf a)) (given : Option α) :
    FirstFault (resolveOptional find given) (given.elim [] faultsOf) := by
  cases given with
  | none => exact .ok none
  | some a => exact (h a).map some

/-- What is looked up has one fault if it is not found. -/
theorem lookup_firstFault {x : Except ModelError β} {found : Option α} {P : Prop} [Decidable P]
    {e : ModelError} (h : found = none ↔ ¬ P) (hnone : found = none → x = .error e)
    (hsome : ∀ a, found = some a → ∃ b, x = .ok b) : FirstFault x (if P then [] else [e]) := by
  -- the condition of the check says what the look-up will find
  cases found with
  | none =>
    rw [if_neg (h.mp rfl), hnone rfl]
    exact .error e
  | some a =>
    obtain ⟨b, rfl⟩ := hsome a rfl
    rw [if_pos (not_not.mp fun hno => nomatch h.mpr hno)]
    exact .ok b

/-! ## Flags and kinds -/

/-- The names that a mark of a struct can have, and the one of no mark. -/
def StructFlag.memberNames : List String :=
  ["NONE", "HAS_DEFAULTS", "REQUIRED_API", "MINIMAL_API", "PLAIN_OLD_DATA"]

/-- The names that a mark of a property can have, and the one of no mark. -/
def PropertyFlag.memberNames : List String :=
  ["NONE", "EDITOR_ONLY", "LAZY_REFERENCE", "WEAK_REFERENCE", "SOFT_OBJECT_REFERENCE",
    "SOFT_CLASS_REFERENCE"]

namespace Flag

/-- A flag name that is one of some names when it is written in capitals. -/
def IsMember (members : List String) (given : String) : Prop :=
  capitals given ∈ members.map String.toList

instance (members : List String) (given : String) : Decidable (IsMember members given) :=
  inferInstanceAs (Decidable (capitals given ∈ members.map String.toList))

/-- The flag names that are not among the members. -/
def faults (unknown : String → ModelError) (members : List String) (given : List (Part String)) :
    List ModelError :=
  given.flatMap (Part.faults fun name => if IsMember members name then [] else [unknown name])

variable {φ : Type} {all : List φ} {label : φ → String} {members : List String}

/-- A flag name that stands for nothing is no member. -/
theorem ofName?_eq_none
    (hmembers : members.map String.toList = (noneName :: all.map label).map capitals)
    {given : String} : ofName? all label given = none ↔ ¬ IsMember members given := by
  -- membership, with the name of no mark apart from the labels
  have hmember : IsMember members given ↔
      capitals noneName = capitals given ∨
        ∃ flag ∈ all, capitals (label flag) = capitals given := by
    rw [IsMember, hmembers]
    simp [eq_comm]
  rw [hmember, ofName?]
  -- the name of no mark is found first, and the labels are searched only for other names
  by_cases hnone : capitals noneName = capitals given
  · simp [names, hnone]
  · simp [names, hnone]

/-- The flags of a declaration are refused for the first name that is no member. -/
theorem resolve_firstFault [DecidableEq φ] (unknown : String → ModelError)
    (hmembers : members.map String.toList = (noneName :: all.map label).map capitals)
    (given : List (Part String)) :
    FirstFault (resolve all label unknown given) (faults unknown members given) := by
  -- the search for a name is the only step that can fail
  refine FirstFault.map (fun found => inOrder all (found.filterMap id))
    (FirstFault.mapM fun part _ => Part.firstFault fun name _ => ?_)
  exact lookup_firstFault (ofName?_eq_none hmembers) (fun hname => by rw [hname]; rfl)
    fun flag hname => ⟨flag, by rw [hname]; rfl⟩

end Flag

/-- The marks of a struct are refused for the first name that is no member. -/
theorem StructFlag.resolve_firstFault (given : List (Part String)) :
    FirstFault (StructFlag.resolve given)
      (Flag.faults .unknownStructFlag StructFlag.memberNames given) :=
  Flag.resolve_firstFault _ (by decide) given

/-- The marks of a property are refused for the first name that is no member. -/
theorem PropertyFlag.resolve_firstFault (given : List (Part String)) :
    FirstFault (PropertyFlag.resolve given)
      (Flag.faults .unknownPropertyFlag PropertyFlag.memberNames given) :=
  Flag.resolve_firstFault _ (by decide) given

/-- There are no kinds but the listed ones. -/
theorem PropertyKind.mem_all (kind : PropertyKind) : kind ∈ PropertyKind.all := by
  cases kind <;> decide

/-- A value that is refused as a kind is reported itself. -/
theorem PropertyKind.eq_unknownKind {given : Json} {e : ModelError}
    (h : PropertyKind.resolve given = .error e) : e = .unknownKind given := by
  -- a kind is refused if it is no text, or a text that is no label
  unfold resolve at h
  split at h
  · split at h
    · exact nomatch h
    · exact (Except.error.inj h).symm
  · exact (Except.error.inj h).symm

/-- A value that names no kind. -/
def PropertyKind.faults (given : Json) : List ModelError :=
  if given ∈ PropertyKind.all.map fun kind => .text kind.label then [] else [.unknownKind given]

/-- A kind is refused if it is not one that has a label. -/
theorem PropertyKind.resolve_firstFault (given : Json) :
    FirstFault (PropertyKind.resolve given) (PropertyKind.faults given) := by
  -- the resolution decides which side of the check has to be shown
  cases hkind : resolve given with
  | ok kind =>
    obtain rfl := resolve_eq_ok.mp hkind
    rw [faults, if_pos (List.mem_map_of_mem (mem_all kind))]
    exact .ok kind
  | error e =>
    obtain rfl := eq_unknownKind hkind
    -- if it were the label of a kind, it would be resolved to that kind
    have hno : given ∉ all.map fun kind => .text kind.label := by
      rintro hmem
      obtain ⟨kind, -, rfl⟩ := List.mem_map.mp hmem
      exact nomatch (resolve_eq_ok.mpr rfl).symm.trans hkind
    rw [faults, if_neg hno]
    exact .error _

/-! ## References -/

/-- A reference to a struct that no declaration names. -/
def Dump.structFaults (dump : Dump) : Part Scalar → List ModelError :=
  Part.faults fun name =>
    if name.key ∈ declaredKeys dump.namedStructs then [] else [.unknownStruct name]

/-- A reference to an enum that no declaration names. -/
def Dump.enumFaults (dump : Dump) : Part Scalar → List ModelError :=
  Part.faults fun name =>
    if name.key ∈ declaredKeys dump.namedEnums then [] else [.unknownEnum name]

/-- A model in which just the names of a dump are registered. -/
structure Model.Declares (scope : Model) (dump : Dump) : Prop where
  structs : ∀ k, scope.structs.get? k = none ↔ k ∉ declaredKeys dump.namedStructs
  enums : ∀ k, scope.enums.get? k = none ↔ k ∉ declaredKeys dump.namedEnums

section Members

variable (hscope : scope.Declares dump)

include hscope

/-- A reference to a struct is refused if it has not been declared. -/
theorem Model.structOf_firstFault (reference : Part Scalar) :
    FirstFault (scope.structOf reference) (dump.structFaults reference) := by
  refine Part.firstFault fun name _ => ?_
  exact lookup_firstFault (hscope.structs name.key) (fun hget => by rw [struct, hget])
    fun s hget => ⟨s, by rw [struct, hget]⟩

/-- A reference to an enum is refused if it has not been declared. -/
theorem Model.enumOf_firstFault (reference : Part Scalar) :
    FirstFault (scope.enumOf reference) (dump.enumFaults reference) := by
  refine Part.firstFault fun name _ => ?_
  exact lookup_firstFault (hscope.enums name.key) (fun hget => by rw [enum, hget])
    fun e hget => ⟨e, by rw [enum, hget]⟩

end Members

/-! ## Members -/

/-- What is wrong with what a property tells about itself. -/
def DescriptorDecl.faults (dump : Dump) (d : DescriptorDecl) : List ModelError :=
  PropertyKind.faults d.kind
    ++ Flag.faults .unknownPropertyFlag PropertyFlag.memberNames d.flags
    ++ d.struct.elim [] dump.structFaults
    ++ d.classInfo.elim [] dump.structFaults
    ++ d.enum.elim [] dump.enumFaults

/-- What is wrong with a property, from the outside to the inside. -/
def PropertyDecl.faults (dump : Dump) : PropertyDecl → List ModelError
  | .malformed fault => [.malformed fault]
  | .plain head => head.faults dump
  | .containing head element => head.faults dump ++ element.faults dump

/-- What is wrong with a function: with its parameters, and then with what it returns. -/
def FunctionDecl.faults (dump : Dump) (f : FunctionDecl) : List ModelError :=
  f.params.flatMap (PropertyDecl.faults dump) ++ f.result.elim [] (PropertyDecl.faults dump)

/-- What is wrong with the declaration of a struct before references are looked up. -/
def StructDecl.headFaults (d : StructDecl) : List ModelError :=
  Flag.faults .unknownStructFlag StructFlag.memberNames d.flags ++ d.name.faults fun _ => []

/-- What is wrong with the super and the members of a struct. -/
def StructDecl.memberFaults (dump : Dump) (d : StructDecl) : List ModelError :=
  d.parent.elim [] dump.structFaults
    ++ d.properties.flatMap (PropertyDecl.faults dump)
    ++ d.functions.flatMap (Part.faults (FunctionDecl.faults dump))

/-- What is wrong with a dump: with the enums, with the heads of all structs, and then with the
    members of each. -/
def Dump.faults (dump : Dump) : List ModelError :=
  dump.enums.flatMap (Part.faults fun _ => [])
    ++ dump.structs.flatMap (Part.faults StructDecl.headFaults)
    ++ dump.structs.flatMap (Part.faults (StructDecl.memberFaults dump))

section Members

variable (hscope : scope.Declares dump)

include hscope

/-- What a property tells about itself is refused for its first fault. -/
theorem Descriptor.resolve_firstFault (d : DescriptorDecl) :
    FirstFault (Descriptor.resolve scope owner d) (d.faults dump) := by
  -- the checks in the order in which they are made, each one leaving the rest of the list
  simp only [DescriptorDecl.faults, List.append_assoc]
  refine (PropertyKind.resolve_firstFault d.kind).bind fun kind _ => ?_
  refine (PropertyFlag.resolve_firstFault d.flags).bind fun flags _ => ?_
  -- structs and classes are looked up alike
  have hstructs := resolveOptional_firstFault (Model.structOf_firstFault hscope)
  refine (hstructs d.struct).bind fun struct _ => ?_
  refine (hstructs d.classInfo).bind fun classInfo _ => ?_
  exact (resolveOptional_firstFault (Model.enumOf_firstFault hscope) d.enum).map _

/-- A property is refused for its first fault. -/
theorem Property.resolve_firstFault (d : PropertyDecl) :
    FirstFault (Property.resolve scope owner d) (d.faults dump) := by
  -- induction on the levels, from the outside to the inside
  induction d with
  | malformed fault => exact .error _
  | plain head => exact (Descriptor.resolve_firstFault hscope head).map Property.plain
  | containing head element ih =>
    refine (Descriptor.resolve_firstFault hscope head).bind fun d _ => ?_
    exact ih.map (Property.containing d)

/-- A function is refused for its first fault. -/
theorem HostFunction.resolve_firstFault (part : Part FunctionDecl) :
    FirstFault (HostFunction.resolve scope owner part)
      (part.faults (FunctionDecl.faults dump)) := by
  -- the parameters come before the result
  refine Part.firstFault fun f _ => ?_
  refine (FirstFault.mapM fun p _ => Property.resolve_firstFault hscope p).bind fun params _ => ?_
  exact (resolveOptional_firstFault (Property.resolve_firstFault hscope) f.result).map _

/-- The super and the members of a struct are refused for the first fault among them. -/
theorem Model.resolveStruct_firstFault {t : Table Scalar Struct} {part : Part StructDecl}
    {d : Scalar × StructDecl} (hd : StructDecl.named? part = some d)
    (hregistered : t.get? d.1.key ≠ none) :
    FirstFault (resolveStruct scope t part) (part.faults (StructDecl.memberFaults dump)) := by
  obtain ⟨name, decl⟩ := d
  obtain ⟨rfl, hname⟩ := StructDecl.named?_eq_some.mp hd
  obtain ⟨s, hs : t.get? name.key = some s⟩ := Option.ne_none_iff_exists'.mp hregistered
  -- the declaration is well-formed and registered, so neither can be the fault
  refine Part.firstFault fun d hd' => ?_
  obtain rfl := Except.ok.inj hd'
  have hrequire : Part.require decl.name = (pure name : Except ModelError Scalar) := by
    rw [hname]
    rfl
  -- super, properties and functions, one after the other
  simp only [StructDecl.memberFaults, List.append_assoc, hrequire, pure_bind, hs]
  have hparent := resolveOptional_firstFault (Model.structOf_firstFault hscope) decl.parent
  refine hparent.bind fun parent _ => ?_
  refine (FirstFault.mapM fun p _ => Property.resolve_firstFault hscope p).bind fun _ _ => ?_
  exact (FirstFault.mapM fun f _ => HostFunction.resolve_firstFault hscope f).map _

end Members

/-! ## The dump -/

namespace Model

/-- The head of a struct is refused for the first fault of its declaration. -/
theorem declareStruct_firstFault (t : Table Scalar Struct) (part : Part StructDecl) :
    FirstFault (declareStruct t part) (part.faults StructDecl.headFaults) := by
  -- the flags are resolved before the name is asked for
  refine Part.firstFault fun d _ => ?_
  refine (StructFlag.resolve_firstFault d.flags).bind fun flags _ => ?_
  exact Part.firstFault fun name _ => .ok _

/-- A dump is refused for its first fault. -/
theorem ofDump_firstFault (dump : Dump) : FirstFault (ofDump dump) dump.faults := by
  -- three passes, each of which is reached only if the ones before it found nothing
  simp only [Dump.faults, List.append_assoc]
  -- an enum can only be malformed
  have hdeclareEnum : ∀ t part, FirstFault (declareEnum t part) (part.faults fun _ => []) :=
    fun t part => Part.firstFault fun e _ => .ok _
  refine (FirstFault.foldlM (P := fun _ => True) trivial (fun _ _ _ _ _ _ => trivial)
    fun t part _ _ => hdeclareEnum t part).bind fun enums henums => ?_
  refine (FirstFault.foldlM (P := fun _ => True) trivial (fun _ _ _ _ _ _ => trivial)
    fun t part _ _ => declareStruct_firstFault t part).bind fun heads hheads => ?_
  -- after two passes without a fault, just the names of the dump are registered
  obtain ⟨-, hlastEnums⟩ := holdsLast_enums henums
  obtain ⟨hnamed, hlastHeads⟩ := holdsLast_structs hheads
  have hscope : Declares ⟨enums, heads⟩ dump :=
    ⟨fun _ => hlastHeads.get?_eq_none, fun _ => hlastEnums.get?_eq_none⟩
  -- and each struct that is looked up in the third pass is found
  have hregistered : ∀ {t : Table Scalar Struct} {part : Part StructDecl}, part ∈ dump.structs →
      Declares ⟨enums, t⟩ dump → ∀ d, StructDecl.named? part = some d → t.get? d.1.key ≠ none := by
    intro t part hpart ht d hd hnone
    exact (ht.structs _).mp hnone (List.mem_map_of_mem (List.mem_filterMap.mpr ⟨part, hpart, hd⟩))
  refine (FirstFault.foldlM (P := fun t => Declares ⟨enums, t⟩ dump) hscope ?_ ?_).map _
  · -- going through the declarations once more registers no other names
    intro t part t' hpart ht hstep
    obtain ⟨d, s, s', hd, hget, -, rfl⟩ := resolveStruct_eq_ok (hregistered hpart ht) hstep
    refine ⟨fun k => ?_, ht.enums⟩
    rw [Table.get?_insert, ← ht.structs k]
    split
    · next hk => simp [hk, hget]
    · rfl
  · intro t part hpart ht
    obtain ⟨d, hd⟩ := Dump.exists_named hnamed hpart
    exact resolveStruct_firstFault hscope hd (hregistered hpart ht d hd)

end Model

end ScriptBindings

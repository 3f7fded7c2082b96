import ScriptBindings.Proofs.DumpFaults

/-!
# Consistent dumps

A dump is consistent if each flag, each kind and each reference in it is known: flags are those of
their type, in letters of any case, kinds are the listed ones, and references lead to something that
is declared somewhere in the dump. Exactly the dumps without faults are consistent.

## Key results

- `PropertyDecl.faults_eq_nil`, `FunctionDecl.faults_eq_nil`: members without faults
- `Dump.faults_eq_nil`: a dump has no faults if it is consistent
-/

namespace ScriptBindings

variable {α : Type} {dump : Dump}

/-! ## Consistency -/

/-- A part that is well-formed and has a property. -/
def Part.Holds (P : α → Prop) (part : Part α) : Prop := ∃ a, part = .ok a ∧ P a

/-- A name that a declaration gives to a struct. -/
def Dump.DeclaresStruct (dump : Dump) (name : Scalar) : Prop :=
  name.key ∈ declaredKeys dump.namedStructs

/-- A name that a declaration gives to an enum. -/
def Dump.DeclaresEnum (dump : Dump) (name : Scalar) : Prop :=
  name.key ∈ declaredKeys dump.namedEnums

/-- What a property tells about itself is known. -/
structure DescriptorDecl.IsConsistent (dump : Dump) (d : DescriptorDecl) : Prop where
  kind : ∃ kind : PropertyKind, d.kind = .text kind.label
  flags : ∀ part ∈ d.flags, part.Holds (Flag.IsMember PropertyFlag.memberNames)
  struct : ∀ reference ∈ d.struct, reference.Holds dump.DeclaresStruct
  classInfo : ∀ reference ∈ d.classInfo, reference.Holds dump.DeclaresStruct
  enum : ∀ reference ∈ d.enum, reference.Holds dump.DeclaresEnum

/-- What a property tells is known, at every depth. -/
def PropertyDecl.IsConsistent (dump : Dump) : PropertyDecl → Prop
  | .malformed _ => False
  | .plain head => head.IsConsistent dump
  | .containing head element => head.IsConsistent dump ∧ element.IsConsistent dump

/-- What a function takes and returns is known. -/
structure FunctionDecl.IsConsistent (dump : Dump) (f : FunctionDecl) : Prop where
  params : ∀ p ∈ f.params, p.IsConsistent dump
  result : ∀ p ∈ f.result, p.IsConsistent dump

/-- What the declaration of a struct tells is known. -/
structure StructDecl.IsConsistent (dump : Dump) (d : StructDecl) : Prop where
  name : d.name.Holds fun _ => True
  flags : ∀ part ∈ d.flags, part.Holds (Flag.IsMember StructFlag.memberNames)
  parent : ∀ reference ∈ d.parent, reference.Holds dump.DeclaresStruct
  properties : ∀ p ∈ d.properties, p.IsConsistent dump
  functions : ∀ f ∈ d.functions, f.Holds (FunctionDecl.IsConsistent dump)

/-- What a dump tells is known, also by declarations that are replaced later. -/
structure Dump.IsConsistent (dump : Dump) : Prop where
  enums : ∀ e ∈ dump.enums, e.Holds fun _ => True
  structs : ∀ d ∈ dump.structs, d.Holds (StructDecl.IsConsistent dump)

/-! ## No faults -/

/-- A part has no faults if it is well-formed and nothing is wrong with what it says. -/
theorem Part.faults_eq_nil {faultsOf : α → List ModelError} {P : α → Prop}
    (h : ∀ a, faultsOf a = [] ↔ P a) {part : Part α} :
    part.faults faultsOf = [] ↔ part.Holds P := by
  cases part with
  | error fault => simp [faults, Holds]
  | ok a => simp [faults, Holds, h]

/-- What may be left out has no faults if nothing is wrong with it. -/
theorem elim_faults_eq_nil {faultsOf : α → List ModelError} {P : α → Prop}
    (h : ∀ a, faultsOf a = [] ↔ P a) {given : Option α} :
    given.elim [] faultsOf = [] ↔ ∀ a ∈ given, P a := by
  cases given with
  | none => simp
  | some a => simp [h]

/-- What is listed has no faults if nothing is wrong with any of it. -/
theorem flatMap_faults_eq_nil {faultsOf : α → List ModelError} {P : α → Prop}
    (h : ∀ a, faultsOf a = [] ↔ P a) {as : List α} :
    as.flatMap faultsOf = [] ↔ ∀ a ∈ as, P a := by
  simp [List.flatMap_eq_nil_iff, h]

/-- A single check has no fault if it is passed. -/
private theorem check_eq_nil {P : Prop} [Decidable P] {e : ModelError} :
    (if P then [] else [e]) = [] ↔ P := by
  by_cases h : P <;> simp [h]

/-- Flags have no faults if all of them are members. -/
theorem Flag.faults_eq_nil {unknown : String → ModelError} {members : List String}
    {given : List (Part String)} :
    faults unknown members given = [] ↔ ∀ part ∈ given, part.Holds (IsMember members) :=
  flatMap_faults_eq_nil fun _ => Part.faults_eq_nil fun _ => check_eq_nil

/-- A kind has no faults if it has a label. -/
theorem PropertyKind.faults_eq_nil {given : Json} :
    faults given = [] ↔ ∃ kind : PropertyKind, given = .text kind.label := by
  -- the check looks the text up among the labels of all kinds
  rw [faults, check_eq_nil, List.mem_map]
  constructor
  · rintro ⟨kind, -, rfl⟩
    exact ⟨kind, rfl⟩
  · rintro ⟨kind, rfl⟩
    exact ⟨kind, mem_all kind, rfl⟩

/-- A reference to a struct has no faults if a declaration gives that name. -/
theorem Dump.structFaults_eq_nil {reference : Part Scalar} :
    dump.structFaults reference = [] ↔ reference.Holds dump.DeclaresStruct :=
  Part.faults_eq_nil fun _ => check_eq_nil

/-- A reference to an enum has no faults if a declaration gives that name. -/
theorem Dump.enumFaults_eq_nil {reference : Part Scalar} :
    dump.enumFaults reference = [] ↔ reference.Holds dump.DeclaresEnum :=
  Part.faults_eq_nil fun _ => check_eq_nil

/-- What a property tells about itself has no faults if it is known. -/
theorem DescriptorDecl.faults_eq_nil {d : DescriptorDecl} :
    d.faults dump = [] ↔ d.IsConsistent dump := by
  -- both references to structs are checked in one way
  have hstructs : ∀ given : Option (Part Scalar), given.elim [] dump.structFaults = [] ↔
      ∀ reference ∈ given, reference.Holds dump.DeclaresStruct :=
    fun _ => elim_faults_eq_nil fun _ => Dump.structFaults_eq_nil
  have henums : ∀ given : Option (Part Scalar), given.elim [] dump.enumFaults = [] ↔
      ∀ reference ∈ given, reference.Holds dump.DeclaresEnum :=
    fun _ => elim_faults_eq_nil fun _ => Dump.enumFaults_eq_nil
  -- the faults are empty if each of the five groups is
  simp only [faults, List.append_eq_nil_iff, PropertyKind.faults_eq_nil, Flag.faults_eq_nil,
    hstructs, henums]
  constructor
  · rintro ⟨⟨⟨⟨hkind, hflags⟩, hstruct⟩, hclass⟩, henum⟩
    exact ⟨hkind, hflags, hstruct, hclass, henum⟩
  · intro h
    exact ⟨⟨⟨⟨h.kind, h.flags⟩, h.struct⟩, h.classInfo⟩, h.enum⟩

/-- A property has no faults if it is known at every depth. -/
theorem PropertyDecl.faults_eq_nil (d : PropertyDecl) :
    d.faults dump = [] ↔ d.IsConsistent dump := by
  -- induction on the levels: each has a head, and only the last one has no elements
  induction d with
  | malformed fault => simp [faults, IsConsistent]
  | plain head => exact DescriptorDecl.faults_eq_nil
  | containing head element ih =>
    rw [faults, IsConsistent, List.append_eq_nil_iff, DescriptorDecl.faults_eq_nil, ih]

/-- A function has no faults if what it takes and returns is known. -/
theorem FunctionDecl.faults_eq_nil (f : FunctionDecl) :
    f.faults dump = [] ↔ f.IsConsistent dump := by
  -- the parameters come first, then the result if there is one
  rw [faults, List.append_eq_nil_iff, flatMap_faults_eq_nil PropertyDecl.faults_eq_nil,
    elim_faults_eq_nil PropertyDecl.faults_eq_nil]
  exact ⟨fun ⟨hparams, hresult⟩ => ⟨hparams, hresult⟩, fun h => ⟨h.params, h.result⟩⟩

/-- The declaration of a struct has no faults if what it tells is known. -/
theorem StructDecl.faults_eq_nil (d : StructDecl) :
    d.headFaults ++ d.memberFaults dump = [] ↔ d.IsConsistent dump := by
  -- each group of faults, read as what it says is known
  have hname : (d.name.faults fun _ => []) = [] ↔ d.name.Holds fun _ => True :=
    Part.faults_eq_nil fun _ => by simp
  have hparent : d.parent.elim [] dump.structFaults = [] ↔
      ∀ reference ∈ d.parent, reference.Holds dump.DeclaresStruct :=
    elim_faults_eq_nil fun _ => Dump.structFaults_eq_nil
  have hfunctions : d.functions.flatMap (Part.faults (FunctionDecl.faults dump)) = [] ↔
      ∀ f ∈ d.functions, f.Holds (FunctionDecl.IsConsistent dump) :=
    flatMap_faults_eq_nil fun _ => Part.faults_eq_nil FunctionDecl.faults_eq_nil
  -- faults of the head and of the members, put together; only their order differs from the
  -- structure
  simp only [headFaults, memberFaults, List.append_eq_nil_iff, Flag.faults_eq_nil, hname, hparent,
    hfunctions, flatMap_faults_eq_nil PropertyDecl.faults_eq_nil]
  constructor
  · rintro ⟨⟨hflags, hname⟩, ⟨hparent, hproperties⟩, hfunctions⟩
    exact ⟨hname, hflags, hparent, hproperties, hfunctions⟩
  · intro h
    exact ⟨⟨h.flags, h.name⟩, ⟨h.parent, h.properties⟩, h.functions⟩

/-- A dump has no faults if it is consistent. -/
theorem Dump.faults_eq_nil : dump.faults = [] ↔ dump.IsConsistent := by
  -- the head and the members of a struct are checked in two passes, but a malformed one fails both
  have hboth : ∀ d : Part StructDecl,
      d.faults StructDecl.headFaults = [] ∧ d.faults (StructDecl.memberFaults dump) = [] ↔
        d.Holds (StructDecl.IsConsistent dump) := by
    intro d
    rw [← Part.faults_eq_nil StructDecl.faults_eq_nil]
    cases d with
    | error fault => simp [Part.faults]
    | ok d => simp [Part.faults]
  -- enums refer to nothing, so being read is all that is asked of them
  have henums : dump.enums.flatMap (Part.faults fun _ => []) = [] ↔
      ∀ e ∈ dump.enums, e.Holds fun _ => True :=
    flatMap_faults_eq_nil fun _ => Part.faults_eq_nil fun _ => by simp
  -- what the two passes ask of each struct is put together again
  simp only [faults, List.append_eq_nil_iff, henums, List.flatMap_eq_nil_iff]
  constructor
  · rintro ⟨⟨henums, hheads⟩, hmembers⟩
    exact ⟨henums, fun d hd => (hboth d).mp ⟨hheads d hd, hmembers d hd⟩⟩
  · intro h
    exact ⟨⟨h.enums, fun d hd => ((hboth d).mpr (h.structs d hd)).1⟩,
      fun d hd => ((hboth d).mpr (h.structs d hd)).2⟩

end ScriptBindings

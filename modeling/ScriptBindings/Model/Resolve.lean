import ScriptBindings.Json.Shown
import ScriptBindings.Model.Dump

/-!
# Resolving a dump

A model is made from a dump in three passes: all enums are declared, then all structs, and then the
structs get their supers and members, with every reference looked up among what was declared. A
name that is declared again replaces the earlier declaration in its place; both then give the struct
their members in turn, and only a declaration with a super of its own changes the super.
-/

namespace ScriptBindings

/-- Why a dump is no model. -/
inductive ModelError where
  | malformed (fault : Malformed)
  | unknownStruct (name : Scalar)
  | unknownEnum (name : Scalar)
  | unknownKind (given : Json)
  | unknownStructFlag (name : String)
  | unknownPropertyFlag (name : String)
  deriving DecidableEq, Repr

namespace ModelError

/-- The text of an error; a malformed dump has none of its own but for a missing field. -/
def message : ModelError → String
  | malformed (.missingField field) => s!"'{field}'"
  | malformed _ => ""
  | unknownStruct name => s!"unknown struct or class '{name.shown}'"
  | unknownEnum name => s!"unknown enum '{name.shown}'"
  | unknownKind given => s!"unknown property kind '{given.shown}'"
  | unknownStructFlag name => s!"unknown StructFlags value '{name}'"
  | unknownPropertyFlag name => s!"unknown PropertyFlags value '{name}'"

end ModelError

/-- A part of a dump where it is needed. -/
def Part.require {α : Type} : Part α → Except ModelError α
  | .ok a => .ok a
  | .error fault => .error (.malformed fault)

namespace Model

/-- The struct or class of a name. -/
def struct (m : Model) (name : Scalar) : Except ModelError Struct :=
  match m.structs.get? name.key with
  | some s => .ok s
  | none => .error (.unknownStruct name)

/-- The enum of a name. -/
def enum (m : Model) (name : Scalar) : Except ModelError EnumType :=
  match m.enums.get? name.key with
  | some e => .ok e
  | none => .error (.unknownEnum name)

/-- The struct or class that a reference means. -/
def structOf (m : Model) (reference : Part Scalar) : Except ModelError Struct := do
  m.struct (← reference.require)

/-- The enum that a reference means. -/
def enumOf (m : Model) (reference : Part Scalar) : Except ModelError EnumType := do
  m.enum (← reference.require)

end Model

/-- The kind that a declaration names. -/
def PropertyKind.resolve (given : Json) : Except ModelError PropertyKind :=
  match given with
  | .text label =>
    match PropertyKind.ofLabel? label with
    | some kind => .ok kind
    | none => .error (.unknownKind given)
  | _ => .error (.unknownKind given)

/-- The flags that a declaration names, in order and each once. -/
def Flag.resolve {φ : Type} [DecidableEq φ] (all : List φ) (label : φ → String)
    (unknown : String → ModelError) (given : List (Part String)) : Except ModelError (List φ) := do
  let found ← given.mapM fun part => do
    let name ← part.require
    match Flag.ofName? all label name with
    | some flag => return flag
    | none => throw (unknown name)
  return Flag.inOrder all (found.filterMap id)

/-- The marks of a struct that a declaration names. -/
def StructFlag.resolve : List (Part String) → Except ModelError (List StructFlag) :=
  Flag.resolve StructFlag.all StructFlag.name .unknownStructFlag

/-- The marks of a property that a declaration names. -/
def PropertyFlag.resolve : List (Part String) → Except ModelError (List PropertyFlag) :=
  Flag.resolve PropertyFlag.all PropertyFlag.name .unknownPropertyFlag

/-- A reference that may be left out. -/
def resolveOptional {α β : Type} (find : α → Except ModelError β) :
    Option α → Except ModelError (Option β)
  | none => .ok none
  | some a => some <$> find a

/-- What a property of `owner` tells about itself, its references looked up in `scope`. -/
def Descriptor.resolve (scope : Model) (owner : Scalar) (d : DescriptorDecl) :
    Except ModelError Descriptor := do
  let kind ← PropertyKind.resolve d.kind
  let flags ← PropertyFlag.resolve d.flags
  let struct ← resolveOptional scope.structOf d.struct
  let classInfo ← resolveOptional scope.structOf d.classInfo
  let enum ← resolveOptional scope.enumOf d.enum
  return {
    name := d.name, kind, flags
    struct := struct.map Struct.toStructHead
    classInfo := classInfo.map Struct.toStructHead
    enum, owner
    tooltip := d.tooltip
    category := d.category }

/-- A property of `owner`, its references looked up in `scope`. -/
def Property.resolve (scope : Model) (owner : Scalar) : PropertyDecl → Except ModelError Property
  | .malformed fault => .error (.malformed fault)
  | .plain head => .plain <$> Descriptor.resolve scope owner head
  | .containing head element => do
    let head ← Descriptor.resolve scope owner head
    let element ← Property.resolve scope owner element
    return .containing head element

/-- A function of `owner`, its references looked up in `scope`. -/
def HostFunction.resolve (scope : Model) (owner : Scalar) (part : Part FunctionDecl) :
    Except ModelError HostFunction := do
  let f ← part.require
  let params ← f.params.mapM (Property.resolve scope owner)
  let result ← resolveOptional (Property.resolve scope owner) f.result
  return {
    name := f.name, params, result
    staticMark := f.staticMark
    tooltip := f.tooltip
    category := f.category }

namespace Model

/-- Declares an enum. -/
def declareEnum (enums : Table Scalar EnumType) (part : Part EnumType) :
    Except ModelError (Table Scalar EnumType) := do
  let e ← part.require
  let firstName := (enums.get? e.name.key).elim e.name fun earlier => earlier.firstName
  return enums.insert e.name.key { e with firstName }

/-- Declares a struct, without super and members. -/
def declareStruct (structs : Table Scalar Struct) (part : Part StructDecl) :
    Except ModelError (Table Scalar Struct) := do
  let d ← part.require
  let flags ← StructFlag.resolve d.flags
  let name ← d.name.require
  return structs.insert name.key (.ofHead {
    name, flags
    classMark := d.classMark
    tooltip := d.tooltip
    category := d.category })

/-- Gives a declared struct the super and the members of one of its declarations. -/
def resolveStruct (scope : Model) (structs : Table Scalar Struct) (part : Part StructDecl) :
    Except ModelError (Table Scalar Struct) := do
  let d ← part.require
  let name ← d.name.require
  match structs.get? name.key with
  -- every declaration has put its name in before
  | none => return structs
  | some s =>
    let parent ← resolveOptional scope.structOf d.parent
    -- the last declaration says how the name is written
    let properties ← d.properties.mapM (Property.resolve scope s.name)
    let functions ← d.functions.mapM (HostFunction.resolve scope s.name)
    return structs.insert name.key { s with
      parent := (parent.map fun p => p.name) <|> s.parent
      properties, functions }

/-- The model that a dump declares. -/
def ofDump (dump : Dump) : Except ModelError Model := do
  let enums ← dump.enums.foldlM declareEnum .empty
  let structs ← dump.structs.foldlM declareStruct .empty
  -- references may point forward, so they are looked up among all heads
  let scope : Model := ⟨enums, structs⟩
  let resolved ← dump.structs.foldlM (resolveStruct scope) structs
  return ⟨enums, resolved⟩

/-- The model that a JSON value declares. -/
def ofJson (j : Json) : Except ModelError Model := do
  ofDump (← (Dump.ofJson j).require)

end Model

end ScriptBindings

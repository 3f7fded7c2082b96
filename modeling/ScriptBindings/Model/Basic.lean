import ScriptBindings.Json
import ScriptBindings.Model.Flag

/-!
# Host models

A snapshot of the declarations of a host: enums, and structs and classes with their properties and
functions. Structs refer to their supers by name; a property that refers to a struct, a class or an
enum carries what it needs to know of it.

Names, descriptions and marks are texts and truth values as a rule, but a model keeps whatever value
was given for them. What refers to a struct or an enum does so by the key of its name.
-/

namespace ScriptBindings

/-- An enumeration. Of several declarations, the first one says under which name it is listed; that
name has the same key as `name`. -/
structure EnumType where
  name : Scalar
  firstName : Scalar
  items : List Json
  tooltip : Json
  category : Json
  deriving DecidableEq, Repr

/-- What a reference to a struct or class tells about it. -/
structure StructHead where
  name : Scalar
  classMark : Json
  flags : List StructFlag
  tooltip : Json
  category : Json
  deriving DecidableEq, Repr

/-- Whether a struct is marked as a class. -/
def StructHead.isClass (s : StructHead) : Bool :=
  s.classMark.isTelling

/-- Whether a struct has one of the given flags. -/
def StructHead.hasAny (s : StructHead) (flags : List StructFlag) : Bool :=
  flags.any (· ∈ s.flags)

/-- What a property tells about itself, apart from the element of an array. -/
structure Descriptor where
  name : Json
  kind : PropertyKind
  flags : List PropertyFlag
  struct : Option StructHead
  classInfo : Option StructHead
  enum : Option EnumType
  owner : Scalar
  tooltip : Json
  category : Json
  deriving DecidableEq, Repr

/-- Whether a property has one of the given flags. -/
def Descriptor.hasAny (d : Descriptor) (flags : List PropertyFlag) : Bool :=
  flags.any (· ∈ d.flags)

/-- A property: a member, a parameter, or what a function returns. -/
inductive Property where
  /-- A property without a description of elements. -/
  | plain (head : Descriptor)
  /-- A property that describes its elements by another one. -/
  | containing (head : Descriptor) (element : Property)
  deriving DecidableEq, Repr

namespace Property

/-- What a property tells about itself. -/
def head : Property → Descriptor
  | plain d => d
  | containing d _ => d

/-- The description of the elements. -/
def element? : Property → Option Property
  | plain _ => none
  | containing _ e => some e

end Property

/-- A function of a struct or class. -/
structure HostFunction where
  name : Json
  params : List Property
  result : Option Property
  staticMark : Json
  tooltip : Json
  category : Json
  deriving DecidableEq, Repr

/-- Whether a function is marked as static. -/
def HostFunction.isStatic (f : HostFunction) : Bool :=
  f.staticMark.isTelling

/-- Whether a function is known to return a truth value. -/
def HostFunction.returnsBoolean (f : HostFunction) : Bool :=
  f.result.any (·.head.kind = .boolean)

/-- A struct or class. -/
structure Struct extends StructHead where
  parent : Option Scalar
  properties : List Property
  functions : List HostFunction
  deriving DecidableEq, Repr

/-- A struct of which only the head is known. -/
def Struct.ofHead (head : StructHead) : Struct where
  toStructHead := head
  parent := none
  properties := []
  functions := []

/-- A snapshot of a host's declarations: the enums and the structs under the keys of their names. -/
structure Model where
  enums : Table Scalar EnumType
  structs : Table Scalar Struct

namespace Model

/-- The classes, in order. -/
def classes (m : Model) : List Struct :=
  m.structs.values.filter (·.isClass)

/-- The structs that are no classes, in order. -/
def plainStructs (m : Model) : List Struct :=
  m.structs.values.filter (!·.isClass)

end Model

end ScriptBindings

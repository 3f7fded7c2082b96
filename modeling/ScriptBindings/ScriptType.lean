import ScriptBindings.Model.ScriptName

/-!
# Script types

The script type of a host property, and the name by which generated signatures call it.

* `Property.scriptType` classifies; a property that cannot be exported has the type `none`;
* `Property.isSupported` also takes the flags into account that rule an export out;
* `Property.displayName` is the name in a signature;
* `Property.view` is all of this together, for a property that is not nested too deeply.
-/

namespace ScriptBindings

/-- The type of a property in scripts. A property of type `none` is not exported. -/
inductive ScriptType where
  | none
  | integer
  | real
  | boolean
  | string
  | vector2
  | vector3
  | vector4
  | rotation
  | rotationAngles
  | transform
  | color
  | name
  | enum
  | struct
  | classReference
  | object
  | list
  deriving DecidableEq, Repr

namespace ScriptType

/-- Every type, in the order of their ids. -/
def all : List ScriptType :=
  [none, integer, real, boolean, string, vector2, vector3, vector4, rotation, rotationAngles,
   transform, color, name, enum, struct, classReference, object, list]

/-- The number of a type. -/
def id (t : ScriptType) : Nat :=
  all.idxOf t

/-- The type of a number. -/
def ofId? (n : Int) : Option ScriptType :=
  all.find? fun t => (t.id : Int) = n

/-- The name of the script class of a type. -/
def label : ScriptType → String
  | none => "nil"
  | integer => "Integer"
  | real => "Real"
  | boolean => "Boolean"
  | string => "String"
  | vector2 => "Vector2"
  | vector3 => "Vector3"
  | vector4 => "Vector4"
  | rotation => "Rotation"
  | rotationAngles => "RotationAngles"
  | transform => "Transform"
  | color => "Color"
  | name => "Name"
  | enum => "Enum"
  | struct => "UStruct"
  | classReference => "EntityClass"
  | object => "Entity"
  | list => "List"

/-- The host structs that are built-in types of the script language. -/
def ofStructName : List (String × ScriptType) :=
  [("Vector2D", vector2),
   ("Vector", vector3),
   ("Vector_NetQuantize", vector3),
   ("Vector_NetQuantizeNormal", vector3),
   ("Vector4", vector4),
   ("Quat", rotation),
   ("Rotator", rotationAngles),
   ("Transform", transform),
   ("Color", color),
   ("LinearColor", color)]

end ScriptType

namespace StructHead

/-- The class that all others descend from; objects of it are exported in any case. -/
def rootClassName : Scalar := .text "Object"

/-- Whether a class gives access to its class object. -/
def hasStaticClass (s : StructHead) : Bool :=
  s.hasAny [.requiredApi, .minimalApi]

/-- Whether a struct can be exported as one. -/
def isExportable (s : StructHead) : Bool :=
  !s.isClass && s.hasAny [.hasDefaults, .requiredApi]

/-- Whether a struct is copied as it lies in memory. -/
def isPlainOldData (s : StructHead) : Bool :=
  !s.isClass && s.hasAny [.plainOldData]

/-- The type of values of a struct. -/
def scriptType (s : StructHead) : ScriptType :=
  -- a built-in type is one whatever the flags say
  let builtIn := match s.name with
    | .text name => ScriptType.ofStructName.lookup name
    | _ => none
  builtIn.getD (if s.isExportable then .struct else .none)

end StructHead

namespace Descriptor

/-- The enum behind a property of an enumeration. -/
def backingEnum? (d : Descriptor) : Option EnumType :=
  if d.kind = .integer ∨ d.kind = .enum then d.enum else none

/-- Whether a property has a mark that rules its export out. -/
def isExcluded (d : Descriptor) : Bool :=
  d.hasAny PropertyFlag.all

/-- The type of a property whose elements have the type `element`, which is `none` if there is no
description of elements or none that can be exported. Lists of lists are not exported. -/
def scriptType (d : Descriptor) (element : ScriptType) : ScriptType :=
  match d.kind with
  | .float => .real
  | .string => .string
  | .name => .name
  | .boolean => .boolean
  -- an integer with an enum behind it stands for one of its items
  | .integer => if d.enum.isSome then .enum else .integer
  | .enum => if d.enum.isSome then .enum else .none
  | .struct => (d.struct.map StructHead.scriptType).getD .none
  | .classReference => .classReference
  | .object =>
    if d.classInfo.any fun c => c.hasStaticClass || c.name = StructHead.rootClassName then .object
    else .none
  | .array => if element = .none ∨ element = .list then .none else .list
  | .other => .none

end Descriptor

/-- Why a property is given no type. -/
inductive TypeError where
  /-- There are more arrays in each other than can be looked at. -/
  | tooDeep
  deriving DecidableEq, Repr

/-- How scripts see a property: its type and the name of that in a signature, whether it is
exported, and the enum behind it. -/
structure PropertyView where
  type : ScriptType
  displayName : Scalar
  isSupported : Bool
  backingEnum : Option EnumType
  deriving DecidableEq, Repr

namespace Property

/-- The type of a property. -/
def scriptType : Property → ScriptType
  | plain d => d.scriptType .none
  | containing d element =>
    d.scriptType (if element.head.isExcluded then .none else element.scriptType)

/-- Whether a property is exported. -/
def isSupported (p : Property) : Bool :=
  !p.head.isExcluded && p.scriptType != .none

/-- The name of a type in a signature, for a property with `d` as its head and elements that are
called `element`. -/
def labelOf (d : Descriptor) (element : Scalar) (t : ScriptType) : Scalar :=
  match t, d.classInfo, d.struct, d.backingEnum? with
  | .object, some c, _, _ => c.name.className
  | .struct, _, some s, _ => s.name.className
  | .enum, _, _, some e => e.name
  | .list, _, _, _ => .text ("List\x7b" ++ element.shown ++ "\x7d")
  | t, _, _, _ => .text t.label

/-- The name of the type of a property in a signature. Classes, structs and enums go by their own
names, and lists tell what they hold. -/
def displayName : Property → Scalar
  | plain d => labelOf d (.text "") (plain d).scriptType
  | containing d element => labelOf d element.displayName (containing d element).scriptType

/-! ## Nested arrays -/

/-- The most elements that are looked at for the type of a property. -/
def maxElements : Nat := 492

/-- The type of a property, if there is room for the elements that have to be looked at: the one of
an array, the one of that element if it is an array as well, and so on. -/
def scriptTypeWithin : (room : Nat) → Property → Except TypeError ScriptType
  | _, plain d => .ok (d.scriptType .none)
  | room, containing d element =>
    if d.kind = .array then
      match room with
      | 0 => .error .tooDeep
      | room + 1 =>
        -- what an element holds that is not exported does not matter
        if element.head.isExcluded then .ok (d.scriptType .none)
        else (element.scriptTypeWithin room).map d.scriptType
    else .ok (d.scriptType .none)

/-- How scripts see a property, if it can be given a type. -/
def view (p : Property) : Except TypeError PropertyView := do
  let type ← p.scriptTypeWithin maxElements
  return {
    type
    displayName := p.displayName
    isSupported := !p.head.isExcluded && type != .none
    backingEnum := p.head.backingEnum? }

end Property

end ScriptBindings

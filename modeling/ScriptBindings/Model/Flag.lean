import ScriptBindings.Text.CaseMapping

/-!
# Flags and kinds

The marks that a host puts on structs and properties, and the kinds of property there are. A dump
names flags in letters of any case; a model lists them in the order of this module, each one once.
-/

namespace ScriptBindings

/-- Marks of a struct or class. -/
inductive StructFlag where
  | hasDefaults
  | requiredApi
  | minimalApi
  | plainOldData
  deriving DecidableEq, Repr

namespace StructFlag

/-- The flags in order. -/
def all : List StructFlag := [hasDefaults, requiredApi, minimalApi, plainOldData]

/-- The name of a flag. -/
def name : StructFlag → String
  | hasDefaults => "has_defaults"
  | requiredApi => "required_api"
  | minimalApi => "minimal_api"
  | plainOldData => "plain_old_data"

end StructFlag

/-- Marks of a property. -/
inductive PropertyFlag where
  | editorOnly
  | lazyReference
  | weakReference
  | softObjectReference
  | softClassReference
  deriving DecidableEq, Repr

namespace PropertyFlag

/-- The flags in order. -/
def all : List PropertyFlag :=
  [editorOnly, lazyReference, weakReference, softObjectReference, softClassReference]

/-- The name of a flag. -/
def name : PropertyFlag → String
  | editorOnly => "editor_only"
  | lazyReference => "lazy_reference"
  | weakReference => "weak_reference"
  | softObjectReference => "soft_object_reference"
  | softClassReference => "soft_class_reference"

end PropertyFlag

/-- What sort of value a property holds. -/
inductive PropertyKind where
  | integer
  | float
  | string
  | name
  | boolean
  | struct
  | enum
  | object
  | classReference
  | array
  | other
  deriving DecidableEq, Repr

namespace PropertyKind

/-- Every kind. -/
def all : List PropertyKind :=
  [integer, float, string, name, boolean, struct, enum, object, classReference, array, other]

/-- The name of a kind in a dump. -/
def label : PropertyKind → String
  | integer => "integer"
  | float => "float"
  | string => "string"
  | name => "name"
  | boolean => "boolean"
  | struct => "struct"
  | enum => "enum"
  | object => "object"
  | classReference => "class"
  | array => "array"
  | other => "other"

/-- The kind of a name. -/
def ofLabel? (s : String) : Option PropertyKind :=
  all.find? (·.label = s)

end PropertyKind

namespace Flag

/-- Flag names are compared in capital letters. -/
def capitals (name : String) : List Char :=
  name.toList.flatMap Text.asciiUppercase

/-- The name that stands for no flag. -/
def noneName : String := "none"

/-- Whether a flag name is the name of a flag. -/
def names (label : String) (given : String) : Bool :=
  capitals label = capitals given

/-- What a flag name stands for: a flag, or nothing in case of `none`. -/
def ofName? {φ : Type} (all : List φ) (label : φ → String) (given : String) :
    Option (Option φ) :=
  if names noneName given then some none
  else (all.find? fun f => names (label f) given).map some

/-- The flags of a list, in order and each once. -/
def inOrder {φ : Type} [DecidableEq φ] (all given : List φ) : List φ :=
  all.filter (· ∈ given)

end Flag

end ScriptBindings

import ScriptBindings.Model.Basic

/-!
# Model dumps

The declarations of a model as a dump gives them: references are names, and so are flags and kinds.
A dump is read from a JSON value without looking anything up. A part of it that has not the form it
needs does not stop the reading; it is kept as a fault (`Malformed`) in the place where it stands,
since what is wrong with an earlier declaration is to be reported first.
-/

namespace ScriptBindings

/-- Why a part of a dump cannot be read. -/
inductive Malformed where
  /-- The dump itself is no object. -/
  | notAModel
  /-- An enum, a struct or a property is no object. -/
  | notADeclaration
  /-- A function is no object. -/
  | notAFunction
  /-- An object lacks a field that it must have. -/
  | missingField (field : String)
  /-- There is nothing to list. -/
  | notAList
  /-- A name is neither text nor another single value. -/
  | notAName
  /-- A flag is no text. -/
  | notAFlagName
  deriving DecidableEq, Repr

/-- A part of a dump, or what is wrong with it. -/
abbrev Part (α : Type) := Except Malformed α

/-- What a property declares about itself, apart from the element of an array. -/
structure DescriptorDecl where
  name : Json
  kind : Json
  flags : List (Part String)
  struct : Option (Part Scalar)
  classInfo : Option (Part Scalar)
  enum : Option (Part Scalar)
  tooltip : Json
  category : Json

/-- The declaration of a property. -/
inductive PropertyDecl where
  | malformed (fault : Malformed)
  | plain (head : DescriptorDecl)
  | containing (head : DescriptorDecl) (element : PropertyDecl)

/-- The declaration of a function. -/
structure FunctionDecl where
  name : Json
  params : List PropertyDecl
  result : Option PropertyDecl
  staticMark : Json
  tooltip : Json
  category : Json

/-- The declaration of a struct or class. -/
structure StructDecl where
  name : Part Scalar
  classMark : Json
  flags : List (Part String)
  parent : Option (Part Scalar)
  properties : List PropertyDecl
  functions : List (Part FunctionDecl)
  tooltip : Json
  category : Json

/-- The declarations of a model. -/
structure Dump where
  enums : List (Part EnumType)
  structs : List (Part StructDecl)

/-! ## Reading -/

namespace Part

/-- The elements of a field that is to be listed, each read by `element`. A field that is not there
has no elements, and one that cannot be listed counts as one faulty element. -/
def listOf {α : Type} (element : Json → α) (faulty : Malformed → α) : Option Json → List α
  | none => []
  | some j =>
    match j.elements? with
    | some js => js.map element
    | none => [faulty .notAList]

/-- The name that a value is: any value without parts. -/
def nameOf : Json → Part Scalar
  | .scalar s => .ok s
  | _ => .error .notAName

/-- A field that must be there. -/
def field (j : Json) (name : String) : Part Json :=
  match j.member? name with
  | some value => .ok value
  | none => .error (.missingField name)

/-- A flag name. -/
def flagName : Json → Part String
  | .text s => .ok s
  | _ => .error .notAFlagName

/-- The flag names of a declaration. -/
def flagsOf (j : Json) : List (Part String) :=
  listOf flagName .error (j.member? "flags")

end Part

/-- A text that may be left out. Any other value in its place is kept. -/
def Json.description (j : Json) (field : String) : Json :=
  (j.member? field).getD (.text "")

/-- A truth value that may be left out. Any other value in its place is kept. -/
def Json.mark (j : Json) (field : String) : Json :=
  (j.member? field).getD (.bool false)

/-- The items of an enum. -/
def EnumType.itemsOf (j : Json) : Part (List Json) :=
  match j.member? "items" with
  | none => .ok []
  | some v =>
    match v.elements? with
    | some js => .ok js
    | none => .error .notAList

/-- Reads the declaration of an enum. -/
def EnumType.ofJson : Json → Part EnumType
  | .object members => do
    let j := Json.object members
    let name ← Part.nameOf (← Part.field j "name")
    let items ← itemsOf j
    return {
      name, items
      firstName := name
      tooltip := j.description "tooltip"
      category := j.description "category" }
  | _ => .error .notADeclaration

/-- Reads what a property declares about itself; its kind must be there. -/
def DescriptorDecl.ofMembers (members : List (String × Json)) : Part DescriptorDecl :=
  let j := Json.object members
  (Part.field j "kind").map fun kind => {
    name := j.description "name"
    kind
    flags := Part.flagsOf j
    struct := (j.member? "struct").map Part.nameOf
    classInfo := (j.member? "class").map Part.nameOf
    enum := (j.member? "enum").map Part.nameOf
    tooltip := j.description "tooltip"
    category := j.description "category" }

mutual

/-- Reads the declaration of a property. -/
def PropertyDecl.ofJson : Json → PropertyDecl
  | .object members =>
    match DescriptorDecl.ofMembers members, PropertyDecl.elementOf members with
    | .error fault, _ => .malformed fault
    | .ok head, none => .plain head
    | .ok head, some element => .containing head element
  | _ => .malformed .notADeclaration

/-- Reads the member that describes the elements. -/
def PropertyDecl.elementOf : List (String × Json) → Option PropertyDecl
  | [] => none
  | (name, value) :: members =>
    if name = "inner" then some (PropertyDecl.ofJson value) else elementOf members

end

/-- Reads the declaration of a function. -/
def FunctionDecl.ofJson : Json → Part FunctionDecl
  | .object members => do
    let j := Json.object members
    let name ← Part.field j "name"
    return {
      name
      params := Part.listOf PropertyDecl.ofJson .malformed (j.member? "params")
      result := ((j.member? "return").filter Json.isTelling).map PropertyDecl.ofJson
      staticMark := j.mark "is_static"
      tooltip := j.description "tooltip"
      category := j.description "category" }
  | _ => .error .notAFunction

/-- Reads the declaration of a struct or class. -/
def StructDecl.ofJson : Json → Part StructDecl
  | .object members => do
    let j := Json.object members
    let name ← Part.field j "name"
    return {
      -- a value with parts is no name, but its flags are looked at first
      name := Part.nameOf name
      classMark := j.mark "is_class"
      flags := Part.flagsOf j
      parent := ((j.member? "super").filter Json.isTelling).map Part.nameOf
      properties := Part.listOf PropertyDecl.ofJson .malformed (j.member? "properties")
      functions := Part.listOf FunctionDecl.ofJson .error (j.member? "functions")
      tooltip := j.description "tooltip"
      category := j.description "category" }
  | _ => .error .notADeclaration

/-- Reads a dump. -/
def Dump.ofJson : Json → Part Dump
  | .object members => do
    let j := Json.object members
    return {
      enums := Part.listOf EnumType.ofJson .error (j.member? "enums")
      structs := Part.listOf StructDecl.ofJson .error (j.member? "structs") }
  | _ => .error .notAModel

end ScriptBindings

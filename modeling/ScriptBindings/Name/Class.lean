/-!
# Class names

The script names of host classes. They keep their names, apart from the ones that a built-in script
class already has and from function libraries, whose names occur so often that they are shortened.
-/

namespace ScriptBindings.Name

/-- The classes with another name in scripts. -/
def classRenames : List (String × String) :=
  [("Object", "Entity"),
   ("Class", "EntityClass"),
   ("Enum", "Enum2"),
   ("DataTableFunctionLibrary", "DataLib"),
   ("GameplayStatics", "GameLib"),
   ("HeadMountedDisplayFunctionLibrary", "VRLib"),
   ("KismetArrayLibrary", "ArrayLib"),
   ("KismetGuidLibrary", "GuidLib"),
   ("KismetInputLibrary", "InputLib"),
   ("KismetMaterialLibrary", "MaterialLib"),
   ("KismetMathLibrary", "MathLib"),
   ("KismetNodeHelperLibrary", "NodeLib"),
   ("KismetStringLibrary", "StringLib"),
   ("KismetSystemLibrary", "SystemLib"),
   ("KismetTextLibrary", "TextLib"),
   ("VisualLoggerKismetLibrary", "LogLib")]

/-- The script name of a host class or struct. -/
def ofClass (name : String) : String :=
  (classRenames.lookup name).getD name

end ScriptBindings.Name

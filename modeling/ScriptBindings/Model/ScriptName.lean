import ScriptBindings.Model.Basic
import ScriptBindings.Name.Class
import ScriptBindings.Name.Given

/-!
# Script names of declarations

What classes, structs and host functions are called in scripts. A class that is called by no text
goes by its own name.
-/

namespace ScriptBindings

/-- The script name of a class or struct of a given name. -/
def Scalar.className : Scalar → Scalar
  | text s => text (Name.ofClass s)
  | s => s

/-- The script name of a host function. -/
def HostFunction.methodName (f : HostFunction) : Except NameError String :=
  Name.Given.asMethod f.name f.returnsBoolean

end ScriptBindings

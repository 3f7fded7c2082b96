import ScriptBindings.Json.Reader
import ScriptBindings.Model.Resolve
import ScriptBindings.Text.Utf8

/-!
# Dump files

A dump is kept in a file as a JSON text in UTF-8. `Model.load` makes a model of the bytes of such a
file; what is wrong with the file is found out before what is wrong with the dump.
-/

namespace ScriptBindings

/-- Why there is no model in a file. -/
inductive LoadError where
  /-- There is no such file. -/
  | missing
  /-- The bytes are not UTF-8. -/
  | notText
  /-- The text is no JSON value, or one with too long a number or too deep a nesting. -/
  | notJson (e : Json.ReadError)
  /-- The value is no dump, or refers to what it does not declare. -/
  | model (e : ModelError)
  deriving DecidableEq, Repr

namespace Model

/-- The model in a file, given the bytes of the file if it is there. -/
def load : Option Bytes → Except LoadError Model
  | none => .error .missing
  | some bytes => do
    let some text := Text.Utf8.decodeStrict? bytes | throw .notText
    let value ← (Json.read text).mapError .notJson
    (ofJson value).mapError .model

end Model

end ScriptBindings

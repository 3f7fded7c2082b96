import ScriptBindings.Depth
import ScriptBindings.FilePath
import ScriptBindings.Json.Shown
import ScriptBindings.Log
import ScriptBindings.Overlay

/-!
# Settings of a generation run

Where scripts go and how they are staged. Settings are taken as they are given, and checked when a
run begins. The depth may be taken from a project file; where that does not give one,
`Config.defaultDepth` is taken and a warning is reported.

* `Config.ofJson` reads settings, and `Config.ofProject` takes the depth from a project file;
* `Config.validate` checks that the settings are in range.
-/

namespace ScriptBindings

/-- Settings out of range. -/
inductive ConfigError where
  | depthNotANumber (depth : Json)
  | depthTooSmall (depth : Json)
  | emptyTempSuffix
  deriving DecidableEq, Repr

namespace ConfigError

/-- The text of an error. -/
def message : ConfigError → String
  | depthNotANumber depth => s!"scripts path depth must be a number, got {depth.shown}"
  | depthTooSmall depth => s!"scripts path depth must be at least 1, got {depth.shown}"
  | emptyTempSuffix => "temp file suffix must not be empty"

end ConfigError

/-- Why settings cannot be taken. -/
inductive SettingsError where
  /-- The settings are no object. -/
  | notSettings
  /-- There is no setting of this name, or it is not to be given here. -/
  | unexpected (name : String)
  /-- It is not said where scripts go. -/
  | noScriptsPath
  deriving DecidableEq, Repr

/-- The members of a value that has to be an object. -/
def Json.givenMembers : Json → Except SettingsError (List (String × Json))
  | object members => .ok members
  | _ => .error .notSettings

/-- The members of an object that has no others than the ones expected. -/
def Json.settings (j : Json) (expected : List String) :
    Except SettingsError (List (String × Json)) := do
  let members ← j.givenMembers
  match members.find? (·.1 ∉ expected) with
  | some m => throw (.unexpected m.1)
  | none => return members

/-- Settings of a generation run: where scripts go, how deep they are nested, what is put behind the
name of a staged file, and the name of the encoding of scripts. -/
structure Config where
  scriptsPath : NormalPath
  depth : Json
  tempSuffix : Json
  encoding : Json
  deriving DecidableEq, Repr

namespace Config

/-- How deep scripts are nested unless something else is said. -/
def defaultDepth : Nat := 4

/-- What is put behind the name of a staged file unless something else is said. -/
def defaultTempSuffix : String := ".tmp"

/-- The encoding of scripts unless something else is said. -/
def defaultEncoding : String := "utf-8"

/-! ## Reading -/

/-- A path that has to be given as a text. -/
def pathOf : Option Json → Except SettingsError NormalPath
  | some (.text s) => .ok (.ofString s)
  | _ => .error .noScriptsPath

/-- The settings among the members of an object, for a given depth. -/
def ofMembers (scriptsPath : NormalPath) (depth : Json) (members : List (String × Json)) : Config :=
  { scriptsPath, depth
    tempSuffix := (Table.findPair "temp_suffix" members).getD (.text defaultTempSuffix)
    encoding := (Table.findPair "encoding" members).getD (.text defaultEncoding) }

/-- Reads settings. -/
def ofJson (j : Json) : Except SettingsError Config := do
  let members ← j.settings ["scripts_path", "path_depth", "temp_suffix", "encoding"]
  let scriptsPath ← pathOf (j.member? "scripts_path")
  let depth := (j.member? "path_depth").getD (.int defaultDepth)
  return ofMembers scriptsPath depth members

/-! ## Range -/

/-- The depth that a value gives. It has to be a number, and no less than one. -/
def depthOf (given : Json) : Except ConfigError Depth :=
  match Depth.ofJson? given with
  | none => .error (.depthNotANumber given)
  | some d => if d.isBelowOne then .error (.depthTooSmall given) else .ok d

/-- Checks that the settings are in range. -/
def validate (c : Config) : Except ConfigError Unit := do
  let _ ← depthOf c.depth
  if !c.tempSuffix.isTelling then throw .emptyTempSuffix

/-! ## Project files -/

/-- Why a project file gives no settings. -/
inductive ProjectError where
  /-- The name of the overlay is no text. -/
  | overlay (e : NotText)
  | depth (e : Overlay.TooManyDigits)
  | settings (e : SettingsError)
  deriving DecidableEq, Repr

/-- The depth that a project file gives for an overlay. A file that cannot be read gives none, for
whatever overlay. -/
def declaredDepth (overlay : Json) (file : Option Bytes) : Except ProjectError (Option Nat) :=
  match file with
  | none => .ok none
  | some bytes => do
    let name ← overlay.requireText.mapError .overlay
    (Overlay.readDepth name bytes).mapError .depth

/-- The depth for an overlay of a project file, and what is reported if the file does not give
it. -/
def overlayDepth (overlay : Json) (fileName : String) (file : Option Bytes) :
    Except ProjectError (Nat × List LogRecord) := do
  match ← declaredDepth overlay file with
  | some depth => return (depth, [])
  | none =>
    let shown := String.ofList overlay.nested
    return (defaultDepth, [{
      level := .warning
      text := s!"no path depth for overlay {shown} in {fileName}, using {defaultDepth}" }])

/-- The settings that are taken from elsewhere if there is a project file, and must not be given
again: found before the file is read, or only when the settings are put together. -/
def takenFirst : List String := ["scripts_path", "ini_path", "overlay_name"]

/-- Settings with the depth that a project file gives for an overlay, and further settings. -/
def ofProject (scriptsPath : Option Json) (overlay : Json) (fileName : String)
    (file : Option Bytes) (further : Json) : Except ProjectError (Config × List LogRecord) := do
  let given ← further.givenMembers.mapError .settings
  if let some m := given.find? (·.1 ∈ takenFirst) then throw (.settings (.unexpected m.1))
  let (depth, reports) ← overlayDepth overlay fileName file
  let members ← (further.settings ["temp_suffix", "encoding"]).mapError .settings
  let path ← (pathOf scriptsPath).mapError .settings
  return (ofMembers path (.int depth) members, reports)

end Config

end ScriptBindings

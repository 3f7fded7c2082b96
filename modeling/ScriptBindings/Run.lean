import ScriptBindings.Layout
import ScriptBindings.Model.Resolve
import ScriptBindings.Staging

/-!
# Generation runs

One pass of script generation: the layout with the supers it has come across, and the workspace with
the staged files. A run that is left in good order commits; one that is left by a failure keeps its
staged files. Every action gives what it reports along with its outcome.
-/

namespace ScriptBindings

/-- Why an action of a run fails. -/
inductive RunError where
  | layout (e : LayoutError)
  | staging (e : StagingError)
  deriving DecidableEq, Repr

/-- A pass of script generation. -/
structure Run where
  config : Config
  layout : TrackedLayout
  workspace : Workspace

/-- What came of an action: its outcome, the run after it, and its reports. -/
structure Outcome (α : Type) where
  result : Except RunError α
  run : Run
  reports : List LogRecord

namespace Run

/-- Begins a run in a file tree. The settings have to be in range. -/
def create (config : Config) (tree : FileTree) : Except ConfigError Run := do
  config.validate
  let layout ← Layout.create config.scriptsPath config.depth
  return {
    config
    layout := ⟨layout, []⟩
    workspace := ⟨.create config.encoding config.tempSuffix, tree⟩ }

/-- The supers that the run has come across. -/
def used (r : Run) : List Scalar := r.layout.used

/-- The reports of the supers that are new in a layout. -/
def usedReports (earlier later : TrackedLayout) : List LogRecord :=
  (later.used.drop earlier.used.length).map fun name =>
    { level := .debug, text := s!"super class in use: {name.shown}" }

/-- The outcome of looking up a path. -/
def located (r : Run) (found : Except LayoutError NormalPath × TrackedLayout) :
    Outcome NormalPath where
  result := found.1.mapError .layout
  run := { r with layout := found.2 }
  reports := usedReports r.layout found.2

/-- The directory of a class or struct. -/
def classPath (r : Run) (m : Model) (s : Struct) : Outcome NormalPath :=
  r.located (r.layout.classPath m s)

/-- The file of a method. -/
def methodPath (r : Run) (m : Model) (s : Struct) (method : String) (isStatic : Bool) :
    Outcome NormalPath :=
  r.located (r.layout.methodPath m s method isStatic)

/-- The file of a host function. -/
def functionPath (r : Run) (m : Model) (s : Struct) (f : HostFunction) : Outcome NormalPath :=
  r.located (r.layout.functionPath m s f)

/-- The temporary file of a destination. -/
def tempPath (r : Run) (p : NormalPath) : Except StagingError FilePath :=
  r.workspace.staging.tempPath p

/-- Stages a content for a destination. -/
def write (r : Run) (p : NormalPath) (content : String) : Outcome Bool :=
  let done := r.workspace.write p content
  { result := done.1.mapError .staging
    run := { r with workspace := done.2 }
    reports := match done.1, r.tempPath p with
      | .ok true, .ok temp => [{ level := .debug, text := s!"staged {temp.toString}" }]
      | _, _ => [] }

/-- Stages a content for a path that has been looked up. -/
def writeLocated (found : Outcome NormalPath) (content : String) : Outcome Bool :=
  match found.result with
  | .error e => { found with result := .error e }
  | .ok p =>
    -- the reports of the look-up come first
    let written := found.run.write p content
    { written with reports := found.reports ++ written.reports }

/-- Commits the staged files. -/
def commit (r : Run) : Outcome Nat :=
  let done := r.workspace.commit
  { result := done.1.mapError .staging
    run := { r with workspace := done.2 }
    reports := match done.1 with
      | .ok (count + 1) => [{ level := .info, text := s!"updated {count + 1} script file(s)" }]
      | _ => [] }

/-- What is reported when a run is entered. -/
def enterReport (r : Run) : LogRecord :=
  let depth := (r.layout.depth.wholePart?).getD 0
  { level := .info
    text := s!"generating scripts into {r.config.scriptsPath.toString} (path depth {depth})" }

/-- Leaves a run: commits the staged files, or reports how many stay if there was a failure. -/
def leave (r : Run) (failed : Bool) : Outcome Unit :=
  if failed then
    let staged := r.workspace.staging.pending.size
    { result := .ok ()
      run := r
      reports := [{
        level := .error
        text := s!"generation aborted, {staged} staged file(s) left in place" }] }
  else
    let done := r.commit
    { result := done.result.map fun _ => ()
      run := done.run
      reports := done.reports }

end Run

end ScriptBindings

import ScriptBindings.Config
import ScriptBindings.Model.Ancestors
import ScriptBindings.Model.ScriptName

/-!
# Layout of script files

Scripts are nested by class hierarchy below the scripts path:

    <scripts path>/Object/<super>/<super>/<class>/<method>().sk

Structs lie below `Object/UStruct`. Only so many supers become directories, the outermost ones; when
some are left over, the nearest super and the class share the last directory as `<super>.<class>`.

* `Layout.classPath` is the directory of a class or struct, given its ancestors;
* `Layout.walk` climbs to the ancestors first, and counts them as used;
* `TrackedLayout` keeps the supers that have been come across in a model.
-/

namespace ScriptBindings

/-- The name of the file that holds a method. Question marks are not allowed in file names
everywhere, so they are written `-Q`. -/
def methodFileName (method : String) (isStatic : Bool) : String :=
  String.ofList (method.toList.flatMap fun c => if c = '?' then ['-', 'Q'] else [c])
    ++ (if isStatic then "()C.sk" else "().sk")

/-- Where scripts go, and how deep they are nested. -/
structure Layout where
  scriptsPath : NormalPath
  depth : Depth
  deriving DecidableEq, Repr

/-- Why there is no path for a class or a function. -/
inductive LayoutError where
  | hierarchy (e : HierarchyError)
  /-- A directory has no text for a name. -/
  | notText (e : NotText)
  /-- The depth does not say how many supers become directories. -/
  | notWhole (depth : Depth)
  /-- The name of the function cannot be spelled. -/
  | name (e : NameError)
  deriving DecidableEq, Repr

namespace Layout

/-- A layout of a given depth, which has to be positive. -/
def create (scriptsPath : NormalPath) (depth : Json) : Except ConfigError Layout :=
  (Config.depthOf depth).map (⟨scriptsPath, ·⟩)

/-- The directory below the scripts path that all classes or all structs lie in. -/
def base (isClass : Bool) : String :=
  if isClass then "Object" else "Object/UStruct"

/-- The levels that are taken up without any super: by the class itself, and by the directory of all
structs. -/
def reserved (isClass : Bool) : Nat :=
  if isClass then 1 else 2

/-- The directories below the base, from the outermost super to the class itself. -/
def segments (nesting : Nat) (ancestors : List Scalar) (name : Scalar) : List Scalar :=
  let own := match ancestors with
    | nearest :: _ =>
      -- of the supers that are left over, only the nearest one shows
      if nesting < ancestors.length then
        .text (nearest.className.shown ++ "." ++ name.className.shown)
      else name.className
    | [] => name.className
  (ancestors.reverse.take nesting).map Scalar.className ++ [own]

/-- The directory of the scripts of a class or struct with the given ancestors, nearest first. All
directories need a text for a name. -/
def classPath (l : Layout) (isClass : Bool) (ancestors : List Scalar) (name : Scalar) :
    Except LayoutError NormalPath := do
  let some nesting := l.depth.room? (reserved isClass) ancestors.length
    | throw (.notWhole l.depth)
  let names ← (segments nesting ancestors name).mapM fun segment =>
    (Json.scalar segment).requireText.mapError .notText
  return names.foldl NormalPath.join (l.scriptsPath.join (base isClass))

end Layout

/-- Classes and structs with their supers. They are told apart by what stands for them, so that two
of them may have one name. -/
structure Hierarchy (α : Type) where
  name : α → Scalar
  parent : α → Option α

namespace Layout

variable {α : Type} [DecidableEq α]

/-- Adds a super to those that have been come across, unless it is there. -/
def note (used : List α) (a : α) : List α :=
  if a ∈ used then used else used ++ [a]

/-- The directory of a class or struct, and the supers that have been come across after it has been
asked for. Its ancestors count, if there is an end to them. -/
def walk (l : Layout) (h : Hierarchy α) (used : List α) (isClass : Bool) (start : α) :
    Except LayoutError NormalPath × List α :=
  let climbed := climb h.parent start
  if climbed.ended then
    -- nothing counts before the end has been reached
    (l.classPath isClass (climbed.reached.map h.name) (h.name start),
     climbed.reached.foldl note used)
  else (.error (.hierarchy ⟨h.name start⟩), used)

end Layout

/-- The classes and structs of a model, which knows them by their names. -/
def Model.hierarchy (m : Model) : Hierarchy Scalar where
  name := id
  parent := m.parent?

/-- A layout together with the supers that have been come across, in the order they were first
seen. -/
structure TrackedLayout extends Layout where
  used : List Scalar
  deriving DecidableEq, Repr

namespace TrackedLayout

/-- The directory of a class or struct. Its ancestors count as used, if there is an end to them. -/
def classPath (l : TrackedLayout) (m : Model) (s : Struct) :
    Except LayoutError NormalPath × TrackedLayout :=
  let found := l.toLayout.walk m.hierarchy l.used s.isClass s.name
  (found.1, { l with used := found.2 })

/-- The file of a method of a class or struct. -/
def methodPath (l : TrackedLayout) (m : Model) (s : Struct) (method : String) (isStatic : Bool) :
    Except LayoutError NormalPath × TrackedLayout :=
  let found := l.classPath m s
  (found.1.map (·.join (methodFileName method isStatic)), found.2)

/-- The file of a host function, bound as a method of a class or struct. -/
def functionPath (l : TrackedLayout) (m : Model) (s : Struct) (f : HostFunction) :
    Except LayoutError NormalPath × TrackedLayout :=
  match f.methodName with
  | .error e => (.error (.name e), l)
  | .ok method => l.methodPath m s method f.isStatic

/-- A struct whose ancestors are known is looked up with them. -/
theorem classPath_of_ancestors {l : TrackedLayout} {m : Model} {s : Struct}
    {ancestors : List Scalar} (h : m.ancestors? s.name = .ok ancestors) :
    l.classPath m s = (l.toLayout.classPath s.isClass ancestors s.name,
      { l with used := ancestors.foldl Layout.note l.used }) := by
  have hclimb : climb m.parent? s.name = ⟨ancestors, true⟩ := Model.ancestors?_eq_ok.mp h
  simp only [classPath, Layout.walk, Model.hierarchy, hclimb, if_pos, List.map_id, id_eq]

end TrackedLayout

end ScriptBindings

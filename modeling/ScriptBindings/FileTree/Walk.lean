import ScriptBindings.FilePath
import ScriptBindings.FileTree.Basic

/-!
# Walking along paths

Where a path leads in a file tree. A walk goes from directory to directory; `..` leads to the
parent, and a link in the way is followed, whereas one at the end is followed only on demand. A walk
gives up when it has followed `maxLinks` links. Names and paths must not be too long, and no path
may hold a null character.
-/

namespace ScriptBindings.FileTree

/-- Why an operation on files fails. -/
inductive Fault where
  | missing
  | notADirectory
  | isADirectory
  | alreadyThere
  | notEmpty
  | withinItself
  | nameTooLong
  | tooManyLinks
  | unnamed
  | nullCharacter
  /-- There are more directories to make than can be made at a time. -/
  | tooManyMissing
  deriving DecidableEq, Repr

/-- The links that a walk follows before it gives up. -/
def maxLinks : Nat := 40

/-- The most bytes that the name of an entry may have. -/
def maxNameBytes : Nat := 255

/-- The most bytes that a path may have. -/
def maxPathBytes : Nat := 4095

/-- Where a walk ends. -/
inductive Place where
  /-- At a directory. -/
  | directory (at_ : Location)
  /-- At a regular file. -/
  | file (at_ : Location) (content : Bytes)
  /-- At a link that is not followed. -/
  | link (at_ : Location) (target : String)
  /-- Where there is nothing, in a directory that is there. -/
  | vacant (at_ : Location)
  deriving DecidableEq, Repr

/-- The names that the target of a link goes through. A slash at the end asks for a directory, as a
dot does. -/
def targetNames (target : String) : List String :=
  let names := FilePath.piecesOf target
  if target.toList.getLast? = some '/' then names ++ ["."] else names

/-- Whether a target is absolute. -/
def isAbsoluteTarget (target : String) : Bool :=
  target.toList.head? = some '/'

/-- Walks on from the directory at a location, along a list of names. A link to be followed is left
to `jump`, which gets the directory to start from and the names to go through. -/
def walkFrom (t : FileTree) (followLast : Bool)
    (jump : Location → List String → Except Fault Place) :
    Location → List String → Except Fault Place
  | at_, [] => .ok (.directory at_)
  | at_, name :: names =>
    if name = "." then walkFrom t followLast jump at_ names
    -- the root is its own parent, as the tail of `[]` is `[]`
    else if name = ".." then walkFrom t followLast jump at_.tail names
    else if maxNameBytes < name.utf8ByteSize then .error .nameTooLong
    else
      let next := name :: at_
      match t.lookup next with
      -- only the last name of a path may be free
      | none => if names = [] then .ok (.vacant next) else .error .missing
      | some .directory => walkFrom t followLast jump next names
      | some (.file content) =>
        if names = [] then .ok (.file next content) else .error .notADirectory
      | some (.link target) =>
        if names = [] ∧ ¬ followLast then .ok (.link next target)
        -- a relative target starts where the link lies
        else jump (if isAbsoluteTarget target then [] else at_) (targetNames target ++ names)

/-- Walks along a list of names, following no more than `links` links. -/
def walkLinks (t : FileTree) (followLast : Bool) :
    (links : Nat) → Location → List String → Except Fault Place
  | 0 => walkFrom t followLast fun _ _ => .error .tooManyLinks
  | links + 1 => walkFrom t followLast (walkLinks t followLast links)

/-- Where a path starts. -/
def start (t : FileTree) (p : FilePath) : Location :=
  if p.root = .relative then t.here else []

/-- What is wrong with a path, wherever it leads. -/
def faultOf? (p : FilePath) : Option Fault :=
  if '\x00' ∈ p.toString.toList then some .nullCharacter
  else if maxPathBytes < p.toString.utf8ByteSize then some .nameTooLong
  else none

/-- Where a path leads. -/
def walk (t : FileTree) (followLast : Bool) (p : FilePath) : Except Fault Place :=
  match faultOf? p with
  | some fault => .error fault
  | none => walkLinks t followLast maxLinks (t.start p) p.names

end ScriptBindings.FileTree

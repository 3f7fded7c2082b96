import ScriptBindings.FileTree.Walk

/-!
# Operations on files

Reading, removing, creating and renaming files and making directories, with the causes for which
each of them fails. `read` and `create` follow a link at the end of the path; the others take the
link itself. Only `makeDirectories` may change the tree and fail nevertheless: what it has made
stays.
-/

namespace ScriptBindings.FileTree

/-- The content of a file. -/
def read (t : FileTree) (p : FilePath) : Except Fault Bytes := do
  match ← t.walk true p with
  | .file _ content => return content
  | .directory _ => throw .isADirectory
  | .link _ _ => throw .tooManyLinks
  | .vacant _ => throw .missing

/-- Whether a path leads to a directory. -/
def isDirectory (t : FileTree) (p : FilePath) : Bool :=
  match t.walk true p with
  | .ok (.directory _) => true
  | _ => false

/-- Removes a file or a link. -/
def unlink (t : FileTree) (p : FilePath) : Except Fault FileTree := do
  match ← t.walk false p with
  | .file at_ _ => return t.remove at_
  | .link at_ _ => return t.remove at_
  | .directory _ => throw .isADirectory
  | .vacant _ => throw .missing

/-- Writes a file, in place of its content if it is there. -/
def create (t : FileTree) (p : FilePath) (content : Bytes) : Except Fault FileTree := do
  match ← t.walk true p with
  | .file at_ _ => return t.put at_ (.file content)
  | .vacant at_ => return t.put at_ (.file content)
  | .directory _ => throw .isADirectory
  | .link _ _ => throw .tooManyLinks

/-- Makes a directory in one that is there. -/
def makeDirectory (t : FileTree) (p : FilePath) : Except Fault FileTree := do
  match ← t.walk false p with
  | .vacant at_ => return t.put at_ (.directory [])
  | _ => throw .alreadyThere

/-- The most directories that are made one within the other. -/
def maxMissing : Nat := 988

/-- Makes the directory whose parts are given from the last one on, if there is none. Where the
parent is missing it is made first, and the directory is then tried once more. No more than `room`
directories are tried; a parent is looked for before anything is made. -/
def makeDirectoriesFrom (t : FileTree) (root : PathRoot) :
    (room : Nat) → List String → Except Fault Unit × FileTree
  | _, [] => (.ok (), t)
  | 0, _ :: _ => (.error .tooManyMissing, t)
  | room + 1, name :: outer =>
    let p : FilePath := ⟨root, (name :: outer).reverse⟩
    match t.makeDirectory p with
    | .ok made => (.ok (), made)
    | .error .missing =>
      match makeDirectoriesFrom t root room outer with
      -- the outermost directories that have been made stay
      | (.error fault, grown) => (.error fault, grown)
      | (.ok (), grown) =>
        match grown.makeDirectory p with
        | .ok made => (.ok (), made)
        | .error fault =>
          -- a step up leads to a directory that is there once the parent is
          if fault ≠ .missing ∧ grown.isDirectory p then (.ok (), grown) else (.error fault, grown)
    | .error fault => if t.isDirectory p then (.ok (), t) else (.error fault, t)

/-- Makes a directory, and the directories that lead to it. -/
def makeDirectories (t : FileTree) (p : FilePath) : Except Fault Unit × FileTree :=
  t.makeDirectoriesFrom p.root maxMissing p.parts.reverse

/-- Moves what lies at `source` to `target`. Files and links replace each other; a directory goes
only to where there is nothing or an empty directory, and not into itself. -/
def moveTo (t : FileTree) (source : Place) (target : Place) : Except Fault FileTree :=
  match source, target with
  | .vacant _, _ => .error .missing
  | .directory s, .directory d =>
    if s = d then .ok t
    else if s.isSuffixOf d then .error .withinItself
    else if t.hasChildren d then .error .notEmpty
    else .ok (t.move s d)
  | .directory s, .vacant d =>
    if s.isSuffixOf d then .error .withinItself else .ok (t.move s d)
  | .directory _, _ => .error .notADirectory
  | _, .directory _ => .error .isADirectory
  | .file s _, .file d _ | .file s _, .link d _ | .file s _, .vacant d
  | .link s _, .file d _ | .link s _, .link d _ | .link s _, .vacant d => .ok (t.move s d)

/-- Renames `source` to `target`. Both have to call what they lead to by its name. -/
def rename (t : FileTree) (source target : FilePath) : Except Fault FileTree := do
  if !(source.namesEntry && target.namesEntry) then throw .unnamed
  let s ← t.walk false source
  let d ← t.walk false target
  t.moveTo s d

/-- Makes a link, and the directories that lead to it. -/
def makeLink (t : FileTree) (p : FilePath) (target : String) : FileTree :=
  let grown := (t.makeDirectories p.parent).2
  match grown.walk false p with
  | .ok (.vacant at_) => grown.put at_ (.link target)
  | _ => grown

/-- Writes a file, and makes the directories that lead to it. -/
def provide (t : FileTree) (p : FilePath) (content : Bytes) : FileTree :=
  let grown := (t.makeDirectories p.parent).2
  match grown.create p content with
  | .ok written => written
  | .error _ => grown

/-- Removes whatever a path leads to, with all that lies below it. -/
def discard (t : FileTree) (p : FilePath) : FileTree :=
  match t.walk false p with
  | .ok (.directory at_) => t.remove at_
  | .ok (.file at_ _) => t.remove at_
  | .ok (.link at_ _) => t.remove at_
  | _ => t

mutual

/-- A node whose path is `path`, and the entries below it. -/
def entriesBelow (path : String) : Node → List (String × Entry)
  | .directory children => (path, .directory) :: entriesIn (path ++ "/") children
  | .file content => [(path, .file content)]
  | .link target => [(path, .link target)]

/-- The entries below named nodes, with something before their paths. -/
def entriesIn (before : String) : List (String × Node) → List (String × Entry)
  | [] => []
  | (name, n) :: children => entriesBelow (before ++ name) n ++ entriesIn before children

end

/-- The paths below the working directory with what lies there, in the order of the paths. -/
def listing (t : FileTree) : List (String × Entry) :=
  match t.node? t.here with
  | some (.directory children) => (entriesIn "" children).mergeSort fun a b => a.1 ≤ b.1
  | _ => []

end ScriptBindings.FileTree

import ScriptBindings.Config
import ScriptBindings.FileTree.Operations
import ScriptBindings.Text.Encoding.Named

/-!
# Staged files

Scripts are written only where they change. A new content is first staged: it is written to a
temporary file beside its destination, which `commit` then renames. A run that ends half-way leaves
temporary files beside files that it has not touched.

* `write` stages a content, or does nothing if the destination or the staged file already has it;
* `commit` renames the staged files, in the order in which they were staged;
* `Staging.pending` lists what is staged.
-/

namespace ScriptBindings

/-- Why a file cannot be staged or committed. -/
inductive StagingError where
  /-- The suffix or the name of the encoding is no text. -/
  | notText (e : NotText)
  /-- The path has no name, or the temporary one would be no single name. -/
  | unnamed
  /-- The path or the name of the encoding holds a null character. -/
  | nullCharacter
  /-- There are more directories to make than can be made at a time. -/
  | tooManyMissing
  /-- There is no encoding of the name asked for. -/
  | unknownEncoding
  /-- The content has no bytes in the encoding. -/
  | unencodable (e : Text.EncodingError)
  | cannotRead (path : FilePath)
  | cannotDelete (path : FilePath)
  | cannotSave (path : FilePath)
  | cannotReplace (path : FilePath)
  deriving DecidableEq, Repr

namespace StagingError

/-- The path of the file that an operation failed on. -/
def path? : StagingError → Option FilePath
  | cannotRead path | cannotDelete path | cannotSave path | cannotReplace path => some path
  | _ => none

/-- The text of an error. -/
def message : StagingError → String
  | notText e => s!"not a text: {e.given.shown}"
  | unnamed => "no name for a temporary file"
  | nullCharacter => "null character in a name"
  | tooManyMissing => "too many directories to make"
  | unknownEncoding => "unknown encoding"
  | unencodable .unspellable => "text cannot be encoded"
  | unencodable .refused => "text is not for this encoding"
  | cannotRead path => s!"Failed to read file: '{path.toString}'"
  | cannotDelete path => s!"Failed to delete file: '{path.toString}'"
  | cannotSave path => s!"Failed to save file: '{path.toString}'"
  | cannotReplace path => s!"Couldn't write file '{path.toString}'"

/-- The error for an operation on files that failed: `cannot`, unless the operation was given up, as
it is for a path that holds a null character. -/
def ofFault (cannot : StagingError) : FileTree.Fault → StagingError
  | .nullCharacter => nullCharacter
  | .tooManyMissing => tooManyMissing
  | _ => cannot

end StagingError

/-- A writer of scripts: the encoding, what is put behind the name of a staged file, and the staged
files, each destination with its temporary file. -/
structure Staging where
  encoding : Json
  suffix : Json
  pending : Table NormalPath FilePath

/-- A writer and the file tree that it writes to. -/
structure Workspace where
  staging : Staging
  tree : FileTree

namespace Staging

/-- A writer that has staged nothing. -/
def create (encoding suffix : Json) : Staging :=
  ⟨encoding, suffix, .empty⟩

/-- Reads the settings of a writer. -/
def ofJson (j : Json) : Except SettingsError Staging := do
  let members ← j.settings ["encoding", "temp_suffix"]
  let suffix := (Table.findPair "temp_suffix" members).getD (.text Config.defaultTempSuffix)
  return create ((Table.findPair "encoding" members).getD (.text Config.defaultEncoding)) suffix

/-- The temporary file of a destination. -/
def tempPath (s : Staging) (p : NormalPath) : Except StagingError FilePath := do
  let suffix ← s.suffix.requireText.mapError .notText
  match p.withSuffix? suffix with
  | some temp => return temp
  | none => throw .unnamed

/-- The bytes of a content. -/
def encode (s : Staging) (content : String) : Except StagingError Bytes := do
  let name ← s.encoding.requireText.mapError .notText
  if '\x00' ∈ name.toList then throw .nullCharacter
  let some e := Text.Encoding.ofName? name | throw .unknownEncoding
  (e.encode content).mapError .unencodable

end Staging

namespace FileTree

/-- The content of a file, if there is one. -/
def contentOf (t : FileTree) (p : FilePath) : Except StagingError (Option Bytes) :=
  match t.read p with
  | .ok content => .ok (some content)
  | .error .missing => .ok none
  | .error fault => .error (.ofFault (.cannotRead p) fault)

/-- The tree without a file, if it was there. -/
def without (t : FileTree) (p : FilePath) : Except StagingError FileTree :=
  match t.unlink p with
  | .ok removed => .ok removed
  | .error .missing => .ok t
  | .error fault => .error (.ofFault (.cannotDelete p) fault)

/-- Saves a file, and makes the directories that lead to it. -/
def save (t : FileTree) (destination temp : FilePath) (bytes : Bytes) :
    Except StagingError Unit × FileTree :=
  match t.makeDirectories destination.parent with
  | (.error fault, grown) => (.error (.ofFault (.cannotSave temp) fault), grown)
  | (.ok (), grown) =>
    match grown.create temp bytes with
    | .ok saved => (.ok (), saved)
    | .error fault => (.error (.ofFault (.cannotSave temp) fault), grown)

end FileTree

namespace Workspace

/-- Takes a destination out of the staged files. -/
def unstage (w : Workspace) (p : NormalPath) : Workspace :=
  { w with staging := { w.staging with pending := w.staging.pending.erase p } }

/-- Whether a destination is staged with a content. -/
def isStaged (w : Workspace) (p : NormalPath) (temp : FilePath) (bytes : Bytes) :
    Except StagingError Bool :=
  if w.staging.pending.contains p then do
    return (← w.tree.contentOf temp) == some bytes
  else .ok false

/-- Goes back to what a destination holds: an earlier staging of it is dropped. -/
def revert (w : Workspace) (p : NormalPath) (temp : FilePath) :
    Except StagingError Bool × Workspace :=
  if w.staging.pending.contains p then
    let dropped := w.unstage p
    -- the temporary file may be gone already
    match dropped.tree.without temp with
    | .ok tree => (.ok false, { dropped with tree })
    | .error e => (.error e, dropped)
  else (.ok false, w)

/-- Writes a temporary file afresh and stages it. -/
def stage (w : Workspace) (p : NormalPath) (temp : FilePath) (bytes : Bytes) :
    Except StagingError Bool × Workspace :=
  -- what lies there goes first, so that a link is not written through
  match w.tree.without temp with
  | .error e => (.error e, w)
  | .ok cleared =>
    match cleared.save p temp bytes with
    | (.error e, tree) => (.error e, { w with tree })
    | (.ok (), tree) =>
      (.ok true,
       { staging := { w.staging with pending := w.staging.pending.insert p temp }, tree })

/-- Stages bytes for a destination, unless it is staged with them or already holds them. -/
def writeBytes (w : Workspace) (p : NormalPath) (temp : FilePath) (bytes : Bytes) :
    Except StagingError Bool × Workspace :=
  match w.isStaged p temp bytes with
  | .error e => (.error e, w)
  | .ok true => (.ok false, w)
  | .ok false =>
    -- the destination may have been brought back to this content
    match w.tree.contentOf p with
    | .error e => (.error e, w)
    | .ok held => if held = some bytes then w.revert p temp else w.stage p temp bytes

/-- Stages a content for a destination, unless it is staged with it or already holds it. The answer
tells whether it has been staged. -/
def write (w : Workspace) (p : NormalPath) (content : String) :
    Except StagingError Bool × Workspace :=
  match w.staging.tempPath p, w.staging.encode content with
  | .error e, _ => (.error e, w)
  | .ok _, .error e => (.error e, w)
  | .ok temp, .ok bytes => w.writeBytes p temp bytes

/-- Renames staged files in order, up to the first that cannot be renamed. The answer is the number
of files renamed. -/
def commitAll (w : Workspace) : List (NormalPath × FilePath) → Except StagingError Nat × Workspace
  | [] => (.ok 0, w)
  | (p, temp) :: rest =>
    match w.tree.rename temp p with
    -- this one and the rest stay staged
    | .error fault => (.error (.ofFault (.cannotReplace p) fault), w)
    | .ok tree =>
      let done := commitAll { w.unstage p with tree } rest
      (done.1.map (· + 1), done.2)

/-- Renames all staged files. -/
def commit (w : Workspace) : Except StagingError Nat × Workspace :=
  w.commitAll w.staging.pending.entries

end Workspace

end ScriptBindings

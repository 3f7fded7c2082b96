/-!
# File paths

Paths that lead to files. In the normal form empty segments and `.` are left out, while `..` stays,
since it may lead out of a linked directory. Two leading slashes are kept as they are; any other
number of them makes one.

* `FilePath.toString` shows a path, and `FilePath.names` are the names that it goes through;
* `FilePath.withSuffix?` is a path beside another one, which may not be in normal form;
* `NormalPath` is a path in normal form, as it is read (`NormalPath.ofString`) or put together
  (`NormalPath.join`, where an absolute path replaces everything).
-/

namespace ScriptBindings

/-- Where a path starts. -/
inductive PathRoot where
  | relative
  | slash
  | doubleSlash
  deriving DecidableEq, Repr

/-- A path, given by its parts. -/
structure FilePath where
  root : PathRoot
  parts : List String
  deriving DecidableEq, Repr

/-- The text that a path with this root begins with. -/
def PathRoot.text : PathRoot → String
  | relative => ""
  | slash => "/"
  | doubleSlash => "//"

namespace FilePath

/-- The pieces of a text between slashes. There is always one more of them than of slashes. -/
def splitSlashes : List Char → List (List Char)
  | [] => [[]]
  | c :: cs =>
    if c = '/' then [] :: splitSlashes cs
    else match splitSlashes cs with
      | [] => [[c]]
      | piece :: pieces => (c :: piece) :: pieces

/-- Whether a piece of a path leads nowhere else. -/
def isIdle (piece : List Char) : Bool :=
  piece = [] ∨ piece = ['.']

/-- The parts of a path that is written out. -/
def partsOf (s : String) : List String :=
  ((splitSlashes s.toList).filter (!isIdle ·)).map String.ofList

/-- The root of a path that is written out. -/
def rootOf (s : String) : PathRoot :=
  match (s.toList.takeWhile (· = '/')).length with
  | 0 => .relative
  | 2 => .doubleSlash
  | _ => .slash

/-- Shows a path. The path without parts is shown as a dot. -/
def toString (p : FilePath) : String :=
  if p.root = .relative ∧ p.parts = [] then "."
  else p.root.text ++ "/".intercalate p.parts

instance : ToString FilePath := ⟨toString⟩

/-- Appends a path. An absolute one replaces what comes before it. -/
def append (p q : FilePath) : FilePath :=
  if q.root = .relative then ⟨p.root, p.parts ++ q.parts⟩ else q

/-- The last part of a path. -/
def name? (p : FilePath) : Option String :=
  p.parts.getLast?

/-- The path without its last part. -/
def parent (p : FilePath) : FilePath :=
  ⟨p.root, p.parts.dropLast⟩

/-- The path with something behind its last part, as one part. There is none for a path without a
name, nor if this would not make a single name, idle pieces behind it apart. -/
def withSuffix? (p : FilePath) (suffix : String) : Option FilePath :=
  match p.name? with
  | some name =>
    let named := name ++ suffix
    if (partsOf named).length = 1 ∧ named.toList.getLast? ≠ some '/' then
      some ⟨p.root, p.parts.dropLast ++ [named]⟩
    else none
  | none => none

/-- The pieces of a text between slashes that are not empty. -/
def piecesOf (s : String) : List String :=
  ((splitSlashes s.toList).filter (!·.isEmpty)).map String.ofList

/-- The names that a path goes through. A part may end in dots that stand for a directory itself. -/
def names (p : FilePath) : List String :=
  p.parts.flatMap piecesOf

/-- Whether a path ends in the name of what it leads to, and not in dots. -/
def namesEntry (p : FilePath) : Bool :=
  p.names.getLast?.any fun name => name ≠ "." && name ≠ ".."

/-! ## Normal form -/

/-- The text is one part of a path: a name without slashes that leads somewhere. -/
def IsPart (s : String) : Prop := isIdle s.toList = false ∧ '/' ∉ s.toList

instance (s : String) : Decidable (IsPart s) := inferInstanceAs (Decidable (_ ∧ _))

/-- Every part of the path is a single one. -/
def IsNormal (p : FilePath) : Prop := ∀ part ∈ p.parts, IsPart part

/-- No piece between slashes holds a slash. -/
theorem slash_not_mem_of_mem_splitSlashes (cs : List Char) :
    ∀ piece ∈ splitSlashes cs, '/' ∉ piece := by
  induction cs with
  | nil => simp [splitSlashes]
  | cons c cs ih =>
    simp only [splitSlashes]
    by_cases hc : c = '/'
    · simpa [hc] using ih
    · rw [if_neg hc]
      cases hs : splitSlashes cs with
      | nil => simp [Ne.symm hc]
      | cons piece pieces =>
        -- the character goes to the first piece, and the others are as before
        rw [hs] at ih
        intro q hq
        rcases List.mem_cons.mp hq with rfl | hq
        · have := ih piece List.mem_cons_self
          simp [Ne.symm hc, this]
        · exact ih q (List.mem_cons_of_mem _ hq)

/-- The parts of a path that is written out are single ones. -/
theorem isPart_of_mem_partsOf {s part : String} (h : part ∈ partsOf s) : IsPart part := by
  simp only [partsOf, List.mem_map, List.mem_filter] at h
  obtain ⟨piece, ⟨hmem, hidle⟩, rfl⟩ := h
  exact ⟨by simpa using hidle, by simpa using slash_not_mem_of_mem_splitSlashes _ _ hmem⟩

/-- Paths in normal form are appended to one in normal form. -/
theorem append_isNormal {p q : FilePath} (hp : p.IsNormal) (hq : q.IsNormal) :
    (p.append q).IsNormal := by
  unfold append
  split
  · exact fun part hpart => (List.mem_append.mp hpart).elim (hp part) (hq part)
  · exact hq

/-- The directory of a path in normal form is in normal form. -/
theorem IsNormal.parent {p : FilePath} (h : p.IsNormal) : p.parent.IsNormal :=
  fun part hpart => h part ((List.dropLast_sublist _).subset hpart)

end FilePath

/-- A path in normal form. -/
structure NormalPath extends FilePath where
  normal : toFilePath.IsNormal
  deriving DecidableEq, Repr

namespace NormalPath

instance : CoeOut NormalPath FilePath := ⟨toFilePath⟩

instance : ToString NormalPath := ⟨fun p => p.toString⟩

/-- Paths in normal form are the same if they have the same parts below the same root. -/
theorem ext {p q : NormalPath} (h : p.toFilePath = q.toFilePath) : p = q := by
  cases p
  cases q
  cases h
  rfl

/-- Reads a path. -/
def ofString (s : String) : NormalPath where
  toFilePath := ⟨FilePath.rootOf s, FilePath.partsOf s⟩
  normal _ := FilePath.isPart_of_mem_partsOf

/-- The path of a single part. -/
def ofPart (part : String) (h : FilePath.IsPart part := by decide) : NormalPath where
  toFilePath := ⟨.relative, [part]⟩
  normal _ hmem := List.mem_singleton.mp hmem ▸ h

/-- Appends a path. An absolute one replaces what comes before it. -/
def append (p q : NormalPath) : NormalPath where
  toFilePath := p.toFilePath.append q
  normal := FilePath.append_isNormal p.normal q.normal

/-- Appends a path that is written out. -/
def join (p : NormalPath) (s : String) : NormalPath :=
  p.append (ofString s)

/-- The path without its last part, in normal form as well. -/
def directory (p : NormalPath) : NormalPath where
  toFilePath := p.parent
  normal := p.normal.parent

@[simp] theorem toFilePath_ofString (s : String) :
    (ofString s).toFilePath = ⟨FilePath.rootOf s, FilePath.partsOf s⟩ := rfl

@[simp] theorem toFilePath_append (p q : NormalPath) :
    (p.append q).toFilePath = p.toFilePath.append q := rfl

@[simp] theorem toFilePath_directory (p : NormalPath) : p.directory.toFilePath = p.parent := rfl

end NormalPath

end ScriptBindings

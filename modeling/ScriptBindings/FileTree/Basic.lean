import ScriptBindings.Table
import ScriptBindings.Text.Utf8

/-!
# File trees

A tree of directories, regular files and symbolic links. A location is the chain of names that lead
to an entry, innermost first, so that the tail of a location is the directory around it; the root is
the empty location, is always a directory, and is its own parent. Relative paths start at the
working directory.

* `lookup` is the entry at a location, the one view through which trees are compared;
* `put`, `remove` and `move` change what lies at a location, and whatever is below it goes along
  (`lookup_put`, `lookup_remove`, `lookup_move`).
-/

namespace ScriptBindings

/-- The chain of names of an entry, innermost first. -/
abbrev Location := List String

/-- What has a name in a directory. -/
inductive Node where
  | directory (children : List (String × Node))
  | file (content : Bytes)
  | link (target : String)

/-- What a directory tells about something in it: a directory does not show what it holds. -/
inductive Entry where
  | directory
  | file (content : Bytes)
  | link (target : String)
  deriving DecidableEq, Repr

namespace Node

/-- The entry that a node is. -/
def entry : Node → Entry
  | directory _ => .directory
  | file content => .file content
  | link target => .link target

/-- What names lead to, from the outermost one on. -/
def find? : Node → List String → Option Node
  | n, [] => some n
  | directory children, name :: names =>
    match Table.findPair name children with
    | some child => child.find? names
    | none => none
  | _, _ :: _ => none

/-- Puts a node where names lead, if there is a directory to put it into. -/
def put (new : Node) : Node → List String → Node
  | _, [] => new
  | directory children, [name] => directory (Table.putPair name new children)
  | directory children, name :: names =>
    match Table.findPair name children with
    | some child => directory (Table.putPair name (put new child names) children)
    | none => directory children
  | n, _ :: _ => n

/-- Takes out what names lead to. -/
def remove : Node → List String → Node
  | directory children, [name] => directory (children.filter (·.1 ≠ name))
  | directory children, name :: names =>
    match Table.findPair name children with
    | some child => directory (Table.putPair name (child.remove names) children)
    | none => directory children
  | n, _ => n

/-! What is found after a change, in terms of what was found before it. -/

theorem entry_find?_put {new n : Node} {names : List String} (hn : names ≠ [])
    (h : (n.find? names.dropLast).map entry = some .directory) (k : List String) :
    ((put new n names).find? k).map entry =
      if names <+: k then (new.find? (k.drop names.length)).map entry
      else (n.find? k).map entry := by
  induction names generalizing n k with
  | nil => exact absurd rfl hn
  | cons name names ih =>
    cases n with
    | file content => cases names <;> simp [find?, entry] at h
    | link target => cases names <;> simp [find?, entry] at h
    | directory children =>
      cases names with
      | nil =>
        cases k with
        | nil => simp [put, find?, entry]
        | cons k ks =>
          by_cases hk : k = name
          · simp [put, find?, Table.findPair_putPair, hk]
          · simp [put, find?, Table.findPair_putPair, hk, Ne.symm hk]
      | cons name₂ names =>
        cases hc : Table.findPair name children with
        | none => simp [List.dropLast, find?, hc] at h
        | some child =>
          have h' : (child.find? (name₂ :: names).dropLast).map entry = some .directory := by
            simpa [List.dropLast, find?, hc] using h
          cases k with
          | nil => simp [put, find?, hc, entry]
          | cons k ks =>
            by_cases hk : k = name
            · subst hk
              have := ih (by simp) h' ks
              simpa [put, find?, hc, Table.findPair_putPair] using this
            · simp [put, find?, hc, Table.findPair_putPair, hk, Ne.symm hk]

theorem entry_find?_remove {n : Node} {names : List String} (hn : names ≠ []) (k : List String) :
    ((n.remove names).find? k).map entry =
      if names <+: k then none else (n.find? k).map entry := by
  induction names generalizing n k with
  | nil => exact absurd rfl hn
  | cons name names ih =>
    cases n with
    | file content => cases k <;> simp [remove, find?]
    | link target => cases k <;> simp [remove, find?]
    | directory children =>
      cases names with
      | nil =>
        cases k with
        | nil => simp [remove, find?, entry]
        | cons k ks =>
          have := Table.findPair_filter (fun x => decide (x ≠ name)) k children
          by_cases hk : k = name
          · simp_all [remove, find?]
          · simp_all [remove, find?, Ne.symm hk]
      | cons name₂ names =>
        cases hc : Table.findPair name children with
        | none =>
          cases k with
          | nil => simp [remove, find?, hc]
          | cons k ks =>
            by_cases hk : k = name
            · simp [remove, find?, hc, hk]
            · simp [remove, hc, Ne.symm hk]
        | some child =>
          cases k with
          | nil => simp [remove, find?, hc, entry]
          | cons k ks =>
            by_cases hk : k = name
            · subst hk
              simpa [remove, find?, hc, Table.findPair_putPair] using ih (by simp) ks
            · simp [remove, find?, hc, Table.findPair_putPair, hk, Ne.symm hk]

end Node

/-- A file tree: what lies in its root, and the working directory. -/
structure FileTree where
  children : List (String × Node)
  here : Location

namespace FileTree

/-- The directory that everything lies in. -/
def root (t : FileTree) : Node := .directory t.children

/-- The node at a location. -/
def node? (t : FileTree) (at_ : Location) : Option Node :=
  t.root.find? at_.reverse

/-- The entry at a location. -/
def lookup (t : FileTree) (at_ : Location) : Option Entry :=
  (t.node? at_).map Node.entry

/-- The tree with another root; what is no directory leaves it as it is. -/
def withRoot (t : FileTree) : Node → FileTree
  | .directory children => { t with children }
  | _ => t

/-- Puts a node at a location, in place of the one there. -/
def put (t : FileTree) (at_ : Location) (n : Node) : FileTree :=
  t.withRoot (n.put t.root at_.reverse)

/-- Takes out what lies at a location. -/
def remove (t : FileTree) (at_ : Location) : FileTree :=
  t.withRoot (t.root.remove at_.reverse)

/-- Moves what lies at `source` to `target`, in place of what is there. -/
def move (t : FileTree) (source target : Location) : FileTree :=
  if source = target then t
  else
    match t.node? source with
    | some n => (t.remove source).put target n
    | none => t

/-- Adds the directories that lead to a location. -/
def grow (t : FileTree) : Location → FileTree
  | [] => t
  | name :: outer => (t.grow outer).put (name :: outer) (.directory [])

/-- The tree in which there is only the working directory. -/
def emptyAt (here : Location) : FileTree :=
  grow ⟨[], here⟩ here

/-- Whether a directory holds something. -/
def hasChildren (t : FileTree) (at_ : Location) : Bool :=
  match t.node? at_ with
  | some (.directory children) => !children.isEmpty
  | _ => false

/-! ## What is looked up after a change -/

@[simp] theorem lookup_root (t : FileTree) : t.lookup [] = some .directory := rfl

theorem root_put (t : FileTree) {at_ : Location} (h : at_ ≠ []) (n : Node) :
    (t.put at_ n).root = n.put t.root at_.reverse := by
  have hr : at_.reverse ≠ [] := by simpa using h
  unfold put root
  generalize at_.reverse = names at hr
  match names, hr with
  | [_], _ => rfl
  | name :: _ :: _, _ => simp only [Node.put]; split <;> rfl

theorem root_remove (t : FileTree) (at_ : Location) :
    (t.remove at_).root = t.root.remove at_.reverse := by
  unfold remove root
  generalize at_.reverse = names
  match names with
  | [] | [_] => rfl
  | name :: _ :: _ => simp only [Node.remove]; split <;> rfl

/-- What is put into a directory is found there, with what lies below it; all else stays. -/
theorem lookup_put (t : FileTree) {at_ : Location} (h : at_ ≠ [])
    (hd : t.lookup at_.tail = some .directory) (n : Node) (k : Location) :
    (t.put at_ n).lookup k =
      if at_ <:+ k then (n.find? (k.reverse.drop at_.length)).map Node.entry else t.lookup k := by
  rw [lookup, node?, root_put t h, Node.entry_find?_put (by simpa using h)]
  · simp [lookup, node?]
  · have : at_.reverse.dropLast = at_.tail.reverse := by
      cases at_ with
      | nil => rfl
      | cons name outer => simp
    rw [this]
    exact hd

/-- What is taken out is gone, with what lies below it; all else stays. -/
theorem lookup_remove (t : FileTree) {at_ : Location} (h : at_ ≠ []) (k : Location) :
    (t.remove at_).lookup k = if at_ <:+ k then none else t.lookup k := by
  rw [lookup, node?, root_remove, Node.entry_find?_remove (by simpa using h)]
  simp [lookup, node?]

/-- What is moved into a directory is found there, with what lies below it, and no longer where it
was; all else stays. Nothing moves into itself. -/
theorem lookup_move (t : FileTree) {source target : Location} {n : Node} (hs : source ≠ [])
    (ht : target ≠ []) (hne : source ≠ target) (hn : t.node? source = some n)
    (hd : t.lookup target.tail = some .directory) (hi : ¬ source <:+ target.tail) (k : Location) :
    (t.move source target).lookup k =
      if target <:+ k then (n.find? (k.reverse.drop target.length)).map Node.entry
      else if source <:+ k then none else t.lookup k := by
  simp only [move, hne, if_false, hn]
  rw [lookup_put _ ht (by rw [lookup_remove _ hs, if_neg hi, hd]), lookup_remove _ hs]

end FileTree

end ScriptBindings

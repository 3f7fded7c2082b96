import ScriptBindings.Proofs.ClassPaths
import ScriptBindings.Proofs.Climbing

/-!
# Bounded paths

A layout of depth `D` has room for `D` directories of supers and classes below the directory of all
classes, the first of which is taken up by the class itself. The outermost supers get the others,
from the root downwards. If they do not suffice for all supers, the nearest one shares the directory
of the class, and those in between leave no trace.

## Key results

- `segments_called`: the directories of a class whose supers are called by words
- `walk_called`: the path that a look-up gives
- `walk_bounded`: where the scripts of a class lie, how deep, and in which other directory
-/

namespace ScriptBindings

/-- The class or struct is called by a word. -/
def Hierarchy.Called {α : Type} (h : Hierarchy α) (word : α → String) (a : α) : Prop :=
  h.name a = .text (word a) ∧ Name.IsWord (word a)

namespace Layout

variable {α : Type} {l : Layout} {h : Hierarchy α} {start : α} {supers : List α} {word : α → String}
  {depth n : Nat} {isClass : Bool} {own : String}

/-! ## Directories -/

/-- The directory of all classes or of all structs, part by part. -/
def baseParts (isClass : Bool) : List String :=
  if isClass then ["Object"] else ["Object", "UStruct"]

/-- How many supers there is room for as directories. -/
def nesting (depth : Nat) (isClass : Bool) : Nat :=
  if isClass then depth - 1 else depth - 2

/-- The directory of a class itself, if `n` of its supers have their own: it shows the class, and
    also the nearest super if that is left over. -/
inductive OwnDirectory (word : α → String) (start : α) (n : Nat) : List α → String → Prop
  | alone {supers : List α} : supers.length ≤ n →
      OwnDirectory word start n supers (Name.ofClass (word start))
  | folded {nearest : α} {others : List α} : n < (nearest :: others).length →
      OwnDirectory word start n (nearest :: others)
        (Name.ofClass (word nearest) ++ "." ++ Name.ofClass (word start))

/-- Only the class shows if there is room for all of its supers. -/
theorem OwnDirectory.eq_of_le (hown : OwnDirectory word start n supers own)
    (hle : supers.length ≤ n) : own = Name.ofClass (word start) := by
  cases hown with
  | alone _ => rfl
  | folded hlt => omega

/-- Below the directory of all scripts there is the base, then a directory for each super that there
    is room for, then that of the class. The base of structs is one part longer, for which one super
    less has room, unless there is no room at all. -/
theorem length_below_le (hpos : 1 ≤ depth) (isClass : Bool) (k : Nat) :
    (baseParts isClass).length + (min (nesting depth isClass) k + 1) ≤
      if isClass = false ∧ depth = 1 then 3 else depth + 1 := by
  cases isClass with
  | true =>
    rw [if_neg (by simp)]
    -- a class takes one level, which is that of its own directory
    show 1 + (min (depth - 1) k + 1) ≤ depth + 1
    omega
  | false =>
    -- a struct takes two, so at depth one it lies one level too deep
    by_cases hone : depth = 1
    · subst hone
      show 2 + (min 0 k + 1) ≤ 3
      omega
    · rw [if_neg (by simp [hone])]
      show 2 + (min (depth - 2) k + 1) ≤ depth + 1
      omega

/-- The parts of the base are those of its text. -/
theorem partsOf_base (isClass : Bool) : FilePath.partsOf (base isClass) = baseParts isClass := by
  cases isClass with
  | true => rfl
  | false => rfl

/-- The directory of a class or struct that is called by a word. -/
theorem className_called {a : α} (ha : h.Called word a) :
    (h.name a).className = .text (Name.ofClass (word a)) := by
  rw [ha.1]
  rfl

/-- The directories of the outer supers. -/
theorem map_className_called (n : Nat) (hsupers : ∀ a ∈ supers, h.Called word a) :
    ((supers.map h.name).reverse.take n).map Scalar.className =
      ((supers.reverse.take n).map fun a => Name.ofClass (word a)).map .text := by
  rw [← List.map_reverse, ← List.map_take, List.map_map, List.map_map]
  apply List.map_congr_left
  intro a ha
  exact className_called (hsupers a (List.mem_reverse.mp (List.mem_of_mem_take ha)))

/-- The directory of the class itself stands behind those of the outer supers. -/
theorem exists_ownDirectory (n : Nat) (hstart : h.Called word start)
    (hsupers : ∀ a ∈ supers, h.Called word a) :
    ∃ own, OwnDirectory word start n supers own ∧ IsSegment own ∧
      segments n (supers.map h.name) (h.name start) =
        ((supers.map h.name).reverse.take n).map Scalar.className ++ [.text own] := by
  have hword := Name.ofClass_isWord hstart.2
  unfold segments
  rw [className_called hstart]
  -- without supers there is nothing to fold
  cases supers with
  | nil => exact ⟨_, .alone (Nat.zero_le n), .inl hword, rfl⟩
  | cons nearest others =>
    have hnearest : h.Called word nearest := hsupers nearest List.mem_cons_self
    by_cases hlt : n < (nearest :: others).length
    · -- the nearest super has no directory left, so it goes before the name of the class
      refine ⟨_, .folded hlt, .inr ⟨_, _, Name.ofClass_isWord hnearest.2, hword, rfl⟩, ?_⟩
      simp only [List.map_cons, List.length_cons, List.length_map] at hlt ⊢
      rw [if_pos hlt, className_called hnearest]
      rfl
    · -- every super has a directory of its own
      refine ⟨_, .alone (Nat.not_lt.mp hlt), .inl hword, ?_⟩
      simp only [List.map_cons, List.length_cons, List.length_map] at hlt ⊢
      rw [if_neg hlt]

/-- The directories of a class, from the outermost super to the class itself. Each of them is one
    part of a path. -/
theorem segments_called (n : Nat) (hstart : h.Called word start)
    (hsupers : ∀ a ∈ supers, h.Called word a) :
    ∃ own, OwnDirectory word start n supers own ∧
      segments n (supers.map h.name) (h.name start) =
        ((supers.reverse.take n).map (fun a => Name.ofClass (word a)) ++ [own]).map .text ∧
      ∀ s ∈ (supers.reverse.take n).map (fun a => Name.ofClass (word a)) ++ [own],
        FilePath.IsPart s := by
  obtain ⟨own, hown, hsegment, hsegments⟩ := exists_ownDirectory n hstart hsupers
  rw [map_className_called n hsupers] at hsegments
  refine ⟨own, hown, ?_, fun s hs => ?_⟩
  · rw [hsegments, List.map_append]
    rfl
  · apply IsSegment.isPart
    -- a directory is that of an outer super or that of the class
    rw [List.mem_append, List.mem_map, List.mem_singleton] at hs
    obtain ⟨a, ha, rfl⟩ | rfl := hs
    · left
      exact Name.ofClass_isWord (hsupers a (List.mem_reverse.mp (List.mem_of_mem_take ha))).2
    · exact hsegment

/-! ## Paths -/

variable [DecidableEq α]

/-- A look-up goes through all supers if there are fewer than it goes through at most. -/
theorem walk_of_chain (hchain : Chain h.parent (h.parent start) supers)
    (hlength : supers.length ≤ 255) (isClass : Bool) (used : List α) :
    (l.walk h used isClass start).1 =
      l.classPath isClass (supers.map h.name) (h.name start) := by
  -- the hierarchy is climbed to its end before the look-up gives up
  have hbudget : supers.length < maxAncestors := by
    show supers.length < 256
    omega
  have hclimb : climb h.parent start = ⟨supers, true⟩ := climb_eq_ended.mpr ⟨hchain, hbudget⟩
  simp only [walk, hclimb, if_pos]

/-- The levels that a layout has room for, once those are taken off that every class or struct
    needs. -/
theorem toNat_levels (depth : Nat) (isClass : Bool) :
    ((depth : Int) - reserved isClass).toNat = nesting depth isClass := by
  cases isClass with
  | true =>
    show ((depth : Int) - 1).toNat = depth - 1
    omega
  | false =>
    show ((depth : Int) - 2).toNat = depth - 2
    omega

/-- The path of a class that is called by a word, as are its supers. -/
theorem walk_called (hd : l.depth = .levels depth)
    (hchain : Chain h.parent (h.parent start) supers) (hlength : supers.length ≤ 255)
    (hnames : ∀ a ∈ start :: supers, h.Called word a) (isClass : Bool) (used : List α) :
    ∃ path own, (l.walk h used isClass start).1 = .ok path ∧
      OwnDirectory word start (min (nesting depth isClass) supers.length) supers own ∧
      path.toFilePath = ⟨l.scriptsPath.root, l.scriptsPath.parts ++ (baseParts isClass ++
        ((supers.reverse.take (min (nesting depth isClass) supers.length)).map
          (fun a => Name.ofClass (word a)) ++ [own]))⟩ := by
  -- the directories are one part each, so they are appended as they are
  obtain ⟨hstart, hsupers⟩ := List.forall_mem_cons.mp hnames
  obtain ⟨own, hown, hsegments, hparts⟩ :=
    segments_called (min (nesting depth isClass) supers.length) hstart hsupers
  have hroom : min ((depth : Int) - reserved isClass).toNat (supers.map h.name).length =
      min (nesting depth isClass) supers.length := by
    rw [toNat_levels, List.length_map]
  rw [← hroom] at hsegments
  obtain ⟨path, hpath, hfile⟩ := classPath_of_segments hd hsegments (hroom ▸ hparts)
  refine ⟨path, own, ?_, hown, ?_⟩
  · rw [walk_of_chain hchain hlength, hpath]
  · rw [hfile, partsOf_base, hroom]

/-- With room for all supers, every super and the class itself have a directory. -/
theorem walk_nested (hd : l.depth = .levels depth)
    (hchain : Chain h.parent (h.parent start) supers) (hlength : supers.length ≤ 255)
    (hnames : ∀ a ∈ start :: supers, h.Called word a) (isClass : Bool) (used : List α)
    (hroom : supers.length ≤ nesting depth isClass) :
    ∃ path, (l.walk h used isClass start).1 = .ok path ∧
      path.toFilePath = ⟨l.scriptsPath.root, l.scriptsPath.parts ++ (baseParts isClass ++
        (start :: supers).reverse.map fun a => Name.ofClass (word a))⟩ := by
  obtain ⟨path, own, hwalk, hown, hfile⟩ := walk_called hd hchain hlength hnames isClass used
  rw [Nat.min_eq_right hroom] at hown hfile
  -- with room for all, none of the supers is left out or folded
  have htake : supers.reverse.take supers.length = supers.reverse :=
    List.take_of_length_le (by simp)
  refine ⟨path, hwalk, ?_⟩
  rw [hfile, htake, hown.eq_of_le (Nat.le_refl _), List.reverse_cons, List.map_append,
    List.map_singleton]

/-- Then the class lies in the directory of its nearest super. -/
theorem walk_inside {nearest : α} {others : List α} {path : NormalPath}
    (hd : l.depth = .levels depth)
    (hchain : Chain h.parent (h.parent start) (nearest :: others))
    (hlength : (nearest :: others).length ≤ 255)
    (hnames : ∀ a ∈ start :: nearest :: others, h.Called word a) (isClass : Bool) (used : List α)
    (hroom : (nearest :: others).length ≤ nesting depth isClass)
    (hpath : (l.walk h used isClass start).1 = .ok path) :
    (l.walk h used isClass nearest).1 = .ok path.directory ∧
      path.name? = some (Name.ofClass (word start)) := by
  -- above the nearest super there are the other ones, for which there is room as well
  have habove : Chain h.parent (h.parent nearest) others := by
    generalize h.parent start = parent at hchain
    cases hchain with
    | step hrest => exact hrest
  have hlengthAbove : others.length ≤ 255 := by
    rw [List.length_cons] at hlength
    omega
  have hroomAbove : others.length ≤ nesting depth isClass := by
    rw [List.length_cons] at hroom
    omega
  -- both paths are known part by part, and the longer one has only the class behind the other
  obtain ⟨_, hwalk, hfile⟩ := walk_nested hd hchain hlength hnames isClass used hroom
  obtain rfl := Except.ok.inj (hpath.symm.trans hwalk)
  obtain ⟨above, hwalkAbove, hfileAbove⟩ := walk_nested hd habove hlengthAbove
    (fun a ha => hnames a (List.mem_cons_of_mem _ ha)) isClass used hroomAbove
  rw [List.reverse_cons, List.map_append, List.map_singleton] at hfile
  constructor
  · have hdirectory : above = path.directory := NormalPath.ext <| by
      rw [hfileAbove, NormalPath.toFilePath_directory, hfile]
      simp only [FilePath.parent, ← List.append_assoc, List.dropLast_concat]
    rw [hwalkAbove, hdirectory]
  · rw [hfile]
    simp only [FilePath.name?, ← List.append_assoc, List.getLast?_concat]

/-- The scripts of a class lie below the directory of all classes, in the directories of as many
    supers as there is room for, the outermost ones, from the root downwards. The last directory
    shows the class, with its nearest super before it if not all of them have directories of their
    own. So a path has at most `depth + 1` directories, or three if not even the two of all structs
    leave room, and if there is room for all supers, it lies in that of the nearest super. -/
theorem walk_bounded (hd : l.depth = .levels depth) (hpos : 1 ≤ depth)
    (hchain : Chain h.parent (h.parent start) supers) (hlength : supers.length ≤ 255)
    (hnames : ∀ a ∈ start :: supers, h.Called word a) (isClass : Bool) (used : List α) :
    ∃ path own, (l.walk h used isClass start).1 = .ok path ∧
      OwnDirectory word start (min (nesting depth isClass) supers.length) supers own ∧
      path.toFilePath = ⟨l.scriptsPath.root, l.scriptsPath.parts ++ (baseParts isClass ++
        ((supers.reverse.take (min (nesting depth isClass) supers.length)).map
          (fun a => Name.ofClass (word a)) ++ [own]))⟩ ∧
      path.parts.length ≤ l.scriptsPath.parts.length +
        (if isClass = false ∧ depth = 1 then 3 else depth + 1) ∧
      ∀ nearest ∈ supers.head?, supers.length ≤ nesting depth isClass →
        (l.walk h used isClass nearest).1 = .ok path.directory ∧
          path.name? = some (Name.ofClass (word start)) := by
  obtain ⟨path, own, hwalk, hown, hfile⟩ := walk_called hd hchain hlength hnames isClass used
  refine ⟨path, own, hwalk, hown, hfile, ?_, fun nearest hnearest hroom => ?_⟩
  · -- the bound is that of the parts below the root of the scripts
    have hbelow := length_below_le hpos isClass supers.length
    rw [hfile]
    simp only [List.length_append, List.length_map, List.length_take, List.length_reverse,
      List.length_singleton]
    omega
  · cases supers with
    | nil => exact nomatch hnearest
    | cons a others =>
      obtain rfl : a = nearest := Option.some.inj hnearest
      exact walk_inside hd hchain hlength hnames isClass used hroom hwalk

/-- A class below two others, whose names are words. -/
def heroes : Hierarchy (Fin 3) where
  name a := .text (["Hero", "Pawn", "Object"].getD a "")
  parent
    | 0 => some 1
    | 1 => some 2
    | 2 => none

/-- With two levels there is room for one super, so the nearest one shares the directory of the
    class. With three levels the class lies in the directory of that super. -/
theorem walk_bounded_heroes :
    Chain heroes.parent (heroes.parent 0) [1, 2] ∧
      (∀ a ∈ [0, 1, 2], heroes.Called (["Hero", "Pawn", "Object"].getD · "") a) ∧
      ((⟨.ofString "game/scripts", .levels 2⟩ : Layout).walk heroes [] true 0).1 =
        .ok (.ofString "game/scripts/Object/Entity/Pawn.Hero") ∧
      ((⟨.ofString "game/scripts", .levels 3⟩ : Layout).walk heroes [] true 1).1 =
        .ok (.ofString "game/scripts/Object/Entity/Pawn") ∧
      ((⟨.ofString "game/scripts", .levels 3⟩ : Layout).walk heroes [] true 0).1 =
        .ok (.ofString "game/scripts/Object/Entity/Pawn/Hero") := by
  have hchain : Chain heroes.parent (heroes.parent 0) [1, 2] := .step (.step .top)
  have hnames : ∀ a ∈ [0, 1, 2], heroes.Called (["Hero", "Pawn", "Object"].getD · "") a :=
    fun a _ => ⟨rfl, by revert a; decide⟩
  obtain ⟨path, own, hwalk, hown, hfile, -⟩ :=
    walk_bounded (l := ⟨.ofString "game/scripts", .levels 2⟩) rfl (by decide) hchain (by decide)
      hnames true []
  obtain ⟨path', own', hwalk', hown', hfile', -, hinside⟩ :=
    walk_bounded (l := ⟨.ofString "game/scripts", .levels 3⟩) rfl (by decide) hchain (by decide)
      hnames true []
  obtain ⟨habove, -⟩ := hinside 1 rfl (by decide)
  -- with three levels there is no super left over
  have hhero : path' = .ofString "game/scripts/Object/Entity/Pawn/Hero" := by
    refine NormalPath.ext (hfile'.trans ?_)
    rw [hown'.eq_of_le (by decide)]
    rfl
  refine ⟨hchain, hnames, ?_, ?_, ?_⟩
  · -- with two levels the last directory is the folded one
    rw [hwalk]
    refine congrArg _ (NormalPath.ext (hfile.trans ?_))
    cases hown with
    | alone hle => exact absurd hle (by decide)
    | folded _ => rfl
  · rw [habove, hhero]
    rfl
  · rw [hwalk', hhero]

end Layout

end ScriptBindings

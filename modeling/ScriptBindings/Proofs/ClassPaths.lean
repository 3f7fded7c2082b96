import ScriptBindings.Layout
import ScriptBindings.Proofs.PathNames

/-!
# Paths of classes

Where classes and their supers are called by words, each of them is one part of a path. The last
part is the class, or its nearest super and the class with a dot between them.

## Key results

- `join_of_part` / `foldl_join`: a text that is one part of a path is appended as it is
- `ofClass_isWord`: the script name of a word is a word
- `segments_of_words`: the directories of a class are parts of a path
- `classPath_of_segments`: where the scripts of a class lie
-/

namespace ScriptBindings

namespace NormalPath

variable {p : NormalPath}

/-- A text that is one part of a path is read as that part. -/
theorem ofString_of_part {s : String} (h : FilePath.IsPart s) :
    (ofString s).toFilePath = ⟨.relative, [s]⟩ := by
  have hparts : FilePath.partsOf s = [s] := by
    simp [FilePath.partsOf, FilePath.splitSlashes_of_not_mem _ h.2, h.1]
  -- a part does not begin with a slash
  have hroot : s.toList.takeWhile (· = '/') = [] := by
    cases hs : s.toList with
    | nil => rfl
    | cons c cs =>
      have hc : c ≠ '/' := by
        rintro rfl
        apply h.2
        rw [hs]
        exact List.mem_cons_self
      simp [hc]
  rw [toFilePath_ofString, hparts, FilePath.rootOf, hroot]
  rfl

/-- A text that is one part of a path is appended as it is. -/
theorem join_of_part {s : String} (h : FilePath.IsPart s) :
    (p.join s).toFilePath = ⟨p.root, p.parts ++ [s]⟩ := by
  rw [join, toFilePath_append, ofString_of_part h, FilePath.append, if_pos rfl]

/-- Texts that are parts of a path are appended as they are. -/
theorem foldl_join {names : List String} (h : ∀ x ∈ names, FilePath.IsPart x) :
    (names.foldl join p).toFilePath = ⟨p.root, p.parts ++ names⟩ := by
  -- each part goes behind those that are there already, so the path is left general
  induction names generalizing p with
  | nil => simp
  | cons x xs ih =>
    rw [List.foldl_cons, ih fun y hy => h y (List.mem_cons_of_mem _ hy),
      join_of_part (h x List.mem_cons_self)]
    simp

end NormalPath

/-! ## Words -/

namespace Name

/-- The characters of words: letters and digits of ASCII, and the underscore. -/
def isWordCharacter (c : Char) : Bool :=
  c.isAlphanum || c = '_'

/-- The text is a word of ASCII. -/
def IsWord (s : String) : Prop := s ≠ "" ∧ ∀ c ∈ s.toList, isWordCharacter c = true

instance (s : String) : Decidable (IsWord s) :=
  decidable_of_iff (s ≠ "" ∧ s.toList.all isWordCharacter = true) (by simp [IsWord])

/-- The classes with another name are called by words in scripts. -/
private theorem isWord_of_mem_classRenames : ∀ e ∈ classRenames, IsWord e.2 := by decide +kernel

/-- The script name of a word is a word. -/
theorem ofClass_isWord {name : String} (h : IsWord name) : IsWord (ofClass name) := by
  unfold ofClass
  -- the script name is the name itself or comes from the table, where all names are words
  cases hlookup : classRenames.lookup name with
  | none => exact h
  | some renamed =>
    obtain ⟨before, after, heq, -⟩ := List.lookup_eq_some_iff.mp hlookup
    exact isWord_of_mem_classRenames (name, renamed) (by rw [heq]; simp)

end Name

namespace Scalar

/-- The name of a declaration is a word. -/
def IsWord (s : Scalar) : Prop := ∃ word, s = .text word ∧ Name.IsWord word

/-- The script name of a class that is called by a word. -/
theorem className_of_isWord {s : Scalar} (h : s.IsWord) :
    ∃ word, s.className = .text word ∧ Name.IsWord word := by
  obtain ⟨word, rfl, hword⟩ := h
  exact ⟨Name.ofClass word, rfl, Name.ofClass_isWord hword⟩

end Scalar

namespace Layout

variable {l : Layout} {isClass : Bool} {ancestors : List Scalar} {name : Scalar}

/-- A directory of a class is a word, or two words with a dot between them. -/
def IsSegment (s : String) : Prop :=
  Name.IsWord s ∨ ∃ before word, Name.IsWord before ∧ Name.IsWord word ∧ s = before ++ "." ++ word

/-- The characters of the directories of classes. -/
theorem IsSegment.characters {s : String} (h : IsSegment s) :
    ∀ c ∈ s.toList, Name.isWordCharacter c = true ∨ c = '.' := by
  intro c hc
  rcases h with hword | ⟨before, word, hbefore, hword, rfl⟩
  · exact .inl (hword.2 c hc)
  · simp only [String.toList_append, List.mem_append] at hc
    rcases hc with (hc | hc) | hc
    · exact .inl (hbefore.2 c hc)
    · exact .inr (by simpa using hc)
    · exact .inl (hword.2 c hc)

/-- A directory of a class has a letter, a digit or an underscore. -/
private theorem IsSegment.exists_character {s : String} (h : IsSegment s) :
    ∃ c ∈ s.toList, Name.isWordCharacter c = true := by
  have hfirst : ∀ {word : String}, Name.IsWord word →
      ∃ c ∈ word.toList, Name.isWordCharacter c = true := by
    intro word hword
    obtain ⟨c, hc⟩ := List.exists_mem_of_ne_nil word.toList (by simpa using hword.1)
    exact ⟨c, hc, hword.2 c hc⟩
  rcases h with hword | ⟨before, word, hbefore, -, rfl⟩
  · exact hfirst hword
  · -- the first of the two words has a character already
    obtain ⟨c, hc, hword⟩ := hfirst hbefore
    exact ⟨c, by simp [hc], hword⟩

/-- A directory of a class is one part of a path. -/
theorem IsSegment.isPart {s : String} (h : IsSegment s) : FilePath.IsPart s := by
  obtain ⟨c, hc, hword⟩ := h.exists_character
  constructor
  · -- a letter, a digit or an underscore makes it neither empty nor a single dot
    have hempty : s.toList ≠ [] := List.ne_nil_of_mem hc
    have hdot : s.toList ≠ ['.'] := by
      intro heq
      rw [heq, List.mem_singleton] at hc
      rw [hc] at hword
      exact absurd hword (by decide)
    simp only [FilePath.isIdle, hempty, hdot, or_self, decide_false]
  · -- a slash is no character of a word, and no dot
    intro hslash
    rcases h.characters '/' hslash with hchar | hdot
    · exact absurd hchar (by decide)
    · exact absurd hdot (by decide)

/-- The script names of words are words. -/
private theorem map_className_of_words (names : List Scalar) (h : ∀ a ∈ names, a.IsWord) :
    ∃ words : List String, names.map Scalar.className = words.map .text ∧
      ∀ word ∈ words, Name.IsWord word := by
  induction names with
  | nil => exact ⟨[], rfl, by simp⟩
  | cons a as ih =>
    obtain ⟨words, hwords, hall⟩ := ih fun x hx => h x (List.mem_cons_of_mem _ hx)
    obtain ⟨word, hword, hw⟩ := Scalar.className_of_isWord (h a List.mem_cons_self)
    exact ⟨word :: words, by rw [List.map_cons, hword, hwords, List.map_cons],
      List.forall_mem_cons.mpr ⟨hw, hall⟩⟩

/-- The directories of a class that is called by a word, as are its ancestors. The last one ends in
    the script name of the class. -/
theorem segments_of_words (nesting : Nat) (hname : name.IsWord)
    (ha : ∀ a ∈ ancestors, a.IsWord) :
    ∃ (outer : List String) (own word : String),
      segments nesting ancestors name = (outer ++ [own]).map .text ∧
      (∀ s ∈ outer ++ [own], IsSegment s) ∧
      name.className = .text word ∧ Name.IsWord word ∧
      (own = word ∨ ∃ before, Name.IsWord before ∧ own = before ++ "." ++ word) := by
  obtain ⟨outer, houter, hwords⟩ := map_className_of_words (ancestors.reverse.take nesting)
    fun a hmem => ha a (List.mem_reverse.mp (List.mem_of_mem_take hmem))
  obtain ⟨word, hword, hw⟩ := Scalar.className_of_isWord hname
  -- the last directory is that of the class, or shows the nearest super too
  have hown : ∃ own, segments nesting ancestors name = (outer ++ [own]).map .text ∧
      IsSegment own ∧
      (own = word ∨ ∃ before, Name.IsWord before ∧ own = before ++ "." ++ word) := by
    unfold segments
    rw [houter, hword]
    cases ancestors with
    | nil => exact ⟨word, by simp, .inl hw, .inl rfl⟩
    | cons nearest rest =>
      obtain ⟨before, hbefore, hb⟩ := Scalar.className_of_isWord (ha nearest List.mem_cons_self)
      -- the nearest super is left over if not all of them have room
      by_cases hfold : nesting < (nearest :: rest).length
      · refine ⟨before ++ "." ++ word, ?_, .inr ⟨before, word, hb, hw, rfl⟩,
          .inr ⟨before, hb, rfl⟩⟩
        simp only [hfold, if_true, hbefore, Scalar.shown, List.map_append, List.map_singleton]
      · refine ⟨word, ?_, .inl hw, .inl rfl⟩
        simp only [hfold, if_false, List.map_append, List.map_singleton]
  obtain ⟨own, hsegments, hsegment, hends⟩ := hown
  refine ⟨outer, own, word, hsegments, fun s hs => ?_, hword, hw, hends⟩
  -- the outer directories are words, and the last one has been looked at
  rcases List.mem_append.mp hs with hmem | hmem
  · exact .inl (hwords s hmem)
  · exact List.mem_singleton.mp hmem ▸ hsegment

/-- No text is refused as a directory. -/
private theorem mapM_requireText (names : List String) :
    (names.map Scalar.text).mapM (fun segment =>
      (Json.scalar segment).requireText.mapError LayoutError.notText) = .ok names := by
  induction names with
  | nil => rfl
  | cons x xs ih =>
    rw [List.map_cons, List.mapM_cons, ih]
    rfl

/-- The directory that all classes or all structs lie in. -/
private theorem join_base (p : NormalPath) (isClass : Bool) :
    (p.join (base isClass)).toFilePath = ⟨p.root, p.parts ++ FilePath.partsOf (base isClass)⟩ := by
  cases isClass <;> rfl

/-- A class whose directories are texts has a path. -/
theorem classPath_of_texts {levels : Int} {names : List String} (hd : l.depth = .levels levels)
    (hs : segments (min (levels - reserved isClass).toNat ancestors.length) ancestors name =
      names.map .text) :
    l.classPath isClass ancestors name =
      .ok (names.foldl NormalPath.join (l.scriptsPath.join (base isClass))) := by
  -- the depth is a number of levels, so the room is a number too
  have hroom : l.depth.room? (reserved isClass) ancestors.length =
      some (min (levels - reserved isClass).toNat ancestors.length) := by
    rw [hd, Depth.room?_levels]
  simp only [classPath, hroom, hs, mapM_requireText, bind, Except.bind, pure, Except.pure]

/-- **Where the scripts of a class lie.** -/
theorem classPath_of_segments {levels : Int} {names : List String}
    (hd : l.depth = .levels levels)
    (hs : segments (min (levels - reserved isClass).toNat ancestors.length) ancestors name =
      names.map .text)
    (hp : ∀ s ∈ names, FilePath.IsPart s) :
    ∃ path, l.classPath isClass ancestors name = .ok path ∧
      path.toFilePath = ⟨l.scriptsPath.root,
        l.scriptsPath.parts ++ (FilePath.partsOf (base isClass) ++ names)⟩ := by
  refine ⟨_, classPath_of_texts hd hs, ?_⟩
  rw [NormalPath.foldl_join hp, join_base]
  simp only [List.append_assoc]

end Layout

end ScriptBindings

import ScriptBindings.Proofs.ParameterNames
import ScriptBindings.Proofs.SpelledCharacters

/-!
# Lines of comments

A comment block is read line by line by those who use the scripts, so nothing of a tooltip may stand
outside of its comment. The scan for parameter names goes over the whole tooltip, and the white
space behind a marker may go over the end of a line. It then ends at the comment mark of the next
line without a word, so the scan respells each line by itself.

## Key results

- `lines_induction`: induction along the lines of a text
- `spellParameters_break`: the scan at the end of a line
- `tooltipLines_eq`: the lines of a tooltip are respelled one by one
- `splitOn_blockOf`: the lines of a comment block
-/

namespace ScriptBindings.Comment

open Text

/-! ## Lines of a text -/

/-- Induction along the lines of a text. -/
theorem lines_induction {motive : List Char → Prop} (last : ∀ l, '\n' ∉ l → motive l)
    (line : ∀ l rest, '\n' ∉ l → motive rest → motive (l ++ '\n' :: rest)) (s : List Char) :
    motive s := by
  -- what stands behind the first line end is shorter than the text
  induction hn : s.length using Nat.strongRecOn generalizing s with
  | _ n ih =>
    by_cases h : '\n' ∈ s
    · obtain ⟨l, rest, rfl, hl⟩ := List.eq_append_cons_of_mem h
      refine line l rest hl (ih rest.length ?_ rest rfl)
      rw [← hn, List.length_append, List.length_cons]
      omega
    · exact last s h

/-- A text has one line more than line ends. -/
theorem length_splitOn_lines (s : List Char) : (s.splitOn '\n').length = s.count '\n' + 1 := by
  induction s using lines_induction with
  | last l hl => rw [List.splitOn_eq_singleton hl, List.count_eq_zero.mpr hl]; rfl
  | line l rest hl ih =>
    rw [List.splitOn_append_cons_self_of_not_mem hl, List.length_cons, ih, List.count_append,
      List.count_eq_zero.mpr hl, List.count_cons_self, Nat.zero_add]

/-- No line goes over a line end. -/
theorem newline_not_mem_of_mem_splitOn (s : List Char) : ∀ l ∈ s.splitOn '\n', '\n' ∉ l := by
  induction s using lines_induction with
  | last l hl =>
    rw [List.splitOn_eq_singleton hl]
    simpa using hl
  | line l rest hl ih =>
    rw [List.splitOn_append_cons_self_of_not_mem hl]
    exact List.forall_mem_cons.mpr ⟨hl, ih⟩

/-- A line of a text is a part of it. -/
theorem isInfix_of_mem_splitOn (s : List Char) : ∀ l ∈ s.splitOn '\n', l <:+: s := by
  induction s using lines_induction with
  | last l hl =>
    rw [List.splitOn_eq_singleton hl, List.forall_mem_singleton]
  | line l rest hl ih =>
    rw [List.splitOn_append_cons_self_of_not_mem hl, List.forall_mem_cons]
    -- what stands behind the line end is the end of the text
    have hrest : rest <:+ l ++ '\n' :: rest :=
      (List.suffix_cons _ rest).trans (List.suffix_append l _)
    exact ⟨(List.prefix_append l _).isInfix, fun k hk => (ih k hk).trans hrest.isInfix⟩

/-- A text in which each line is ended has an empty one behind the last. -/
theorem splitOn_ended {ls : List (List Char)} (h : ∀ l ∈ ls, '\n' ∉ l) :
    (ls.flatMap fun l => l ++ ['\n']).splitOn '\n' = ls ++ [[]] := by
  induction ls with
  | nil => rfl
  | cons l ls ih =>
    -- no line has a line end in it, so the first one is that between it and the others
    rw [List.forall_mem_cons] at h
    rw [List.flatMap_cons, List.append_assoc, List.singleton_append,
      List.splitOn_append_cons_self_of_not_mem h.1, ih h.2, List.cons_append]

/-! ## The scan over lines -/

variable {r l : List Char} {c : Char}

/-- The scan goes over a character that no marker begins with. -/
theorem spellParameters_cons_of_ne (hc : c ≠ '@') (s : List Char) :
    spellParameters (c :: s) = c :: spellParameters s := by
  -- all markers begin with an `@`
  refine spellParameters_cons fun m hm hbegins => hc ?_
  obtain ⟨letters, rfl, -⟩ := isMarker_eq hm
  exact ((List.cons_prefix_cons.mp hbegins).1).symm

/-- The scan respells the line before a line end by itself, where the next line begins with neither
    white space nor a word. -/
theorem spellParameters_break (hblank : ∀ c ∈ r.head?, isBlank c = false)
    (hword : ∀ c ∈ r.head?, isWord c = false) (l : List Char) :
    spellParameters (l ++ '\n' :: r) = spellParameters l ++ '\n' :: spellParameters r := by
  -- the scan goes over the line end, which is neither a marker nor a part of a word
  have hend : spellParameters ('\n' :: r) = '\n' :: spellParameters r :=
    spellParameters_cons_of_ne (by decide) r
  have hendWord : ∀ c ∈ ('\n' :: r).head?, isWord c = false := by
    rintro c ⟨⟩
    decide +kernel
  induction l using marker_induction with
  | nil => rw [List.nil_append, hend, spellParameters_nil, List.nil_append]
  | marker m rest hm ih =>
    rw [List.append_assoc, spellParameters_marker hm, spellParameters_marker hm]
    by_cases hall : rest.dropWhile isBlank = []
    · -- the white space goes over the line end, and no word follows it
      have hblanks : ∀ c ∈ rest ++ ['\n'], isBlank c = true := by
        rw [List.forall_mem_append, List.forall_mem_singleton]
        exact ⟨List.dropWhile_eq_nil_iff.mp hall, by decide⟩
      have hrest : rest.takeWhile isBlank = rest :=
        List.takeWhile_eq_self_iff.mpr (List.dropWhile_eq_nil_iff.mp hall)
      rw [List.append_cons, takeWhile_append_of_head hblank, dropWhile_append_of_head hblank,
        List.takeWhile_eq_self_iff.mpr hblanks, List.dropWhile_eq_nil_iff.mpr hblanks, hall, hrest]
      have hnoWord : r.takeWhile isWord = [] := takeWhile_append_of_head (s := []) hword
      have hbehind : r.dropWhile isWord = r := dropWhile_append_of_head (s := []) hword
      have hnone : Name.ofVariable [] false false = [] := rfl
      simp [hnoWord, hbehind, hnone]
    · -- the white space stops in the line, so the word behind it ends in the line too
      rw [takeWhile_append_of_stop hall, dropWhile_append_of_stop hall,
        takeWhile_append_of_head hendWord, dropWhile_append_of_head hendWord,
        ih _ (behindName_suffix rest)]
      simp only [List.append_assoc]
  | other c rest h ih =>
    -- a marker that begins in the line ends in it, because no marker has a line end in it
    have hstops : Stops ('\n' :: r) := by
      rintro c ⟨⟩
      decide
    have hno : ∀ m, isMarker m = true → ¬ m <+: c :: (rest ++ '\n' :: r) := fun m hm hbegins =>
      h m hm (isPrefix_of_stops hm (List.cons_ne_nil c rest) hstops hbegins)
    rw [List.cons_append, spellParameters_cons hno, spellParameters_cons h, ih, List.cons_append]

/-- The scan makes no line ends. -/
theorem newline_not_mem_spellParameters (s : List Char) (hs : '\n' ∉ s) :
    '\n' ∉ spellParameters s := by
  induction s using marker_induction with
  | nil => simp
  | marker m rest hm ih =>
    rw [List.mem_append, not_or] at hs
    have hblanks : '\n' ∉ rest.takeWhile isBlank :=
      fun h => hs.2 ((List.takeWhile_prefix isBlank).subset h)
    have hnamed : '\n' ∉ (rest.dropWhile isBlank).takeWhile isWord := fun h =>
      hs.2 ((List.dropWhile_suffix isBlank).subset ((List.takeWhile_prefix isWord).subset h))
    have hname :
        '\n' ∉ Name.ofVariable ((rest.dropWhile isBlank).takeWhile isWord) false false := by
      intro h
      refine Name.forall_mem_ofVariable (P := (· ≠ '\n')) (by decide) ?_ '\n' h rfl
      -- the small spelling of no other character is a line end
      rintro c hc - - d hd rfl
      exact hnamed (eq_of_mem_lowercase hd (by decide) (by decide) ▸ hc)
    have hbehind := behindName_suffix rest
    rw [spellParameters_marker hm]
    simp only [List.mem_append, not_or]
    exact ⟨⟨⟨hs.1, hblanks⟩, hname⟩, ih _ hbehind fun h => hs.2 (hbehind.subset h)⟩
  | other c rest h ih =>
    rw [List.mem_cons, not_or] at hs
    rw [spellParameters_cons h, List.mem_cons, not_or]
    exact ⟨hs.1, ih hs.2⟩

/-! ## The lines of a block -/

/-- The comment line for a line of a tooltip. -/
def shownLine (l : List Char) : List Char :=
  "// ".toList ++ spellParameters l

/-- The comment lines for a tooltip; there are none for an empty one. -/
def shownLines (tooltip : List Char) : List (List Char) :=
  if tooltip = [] then [] else (tooltip.splitOn '\n').map shownLine

/-- The number of lines of a tooltip; an empty one has none. -/
def lineCount (tooltip : List Char) : Nat :=
  if tooltip = [] then 0 else tooltip.count '\n' + 1

theorem length_shownLines (tooltip : List Char) :
    (shownLines tooltip).length = lineCount tooltip := by
  unfold shownLines lineCount
  split
  · rfl
  · rw [List.length_map, length_splitOn_lines]

/-- The comment mark has no marker in it. -/
theorem spellParameters_slashes (s : List Char) :
    spellParameters ("// ".toList ++ s) = "// ".toList ++ spellParameters s := by
  show spellParameters ('/' :: '/' :: ' ' :: s) = '/' :: '/' :: ' ' :: spellParameters s
  rw [spellParameters_cons_of_ne (by decide), spellParameters_cons_of_ne (by decide),
    spellParameters_cons_of_ne (by decide)]

/-- In a line there are no line ends to put a comment mark behind. -/
private theorem flatMap_of_newline_not_mem (hl : '\n' ∉ l) :
    l.flatMap (fun c => if c = '\n' then "\n// ".toList else [c]) = l := by
  have hsame : ∀ c ∈ l, (if c = '\n' then "\n// ".toList else [c]) = [c] :=
    fun c hc => if_neg fun h : c = '\n' => hl (h ▸ hc)
  rw [List.flatMap_congr hsame, List.flatMap_singleton']

/-- The last line of a tooltip as a comment line. -/
private theorem commented_last (hl : '\n' ∉ l) : commented l = ("// ".toList ++ l) ++ ['\n'] := by
  rw [commented, flatMap_of_newline_not_mem hl]

/-- The first line of a tooltip as a comment line, and the others. -/
private theorem commented_line (hl : '\n' ∉ l) (rest : List Char) :
    commented (l ++ '\n' :: rest) = ("// ".toList ++ l) ++ '\n' :: commented rest := by
  rw [commented, commented, List.flatMap_append, flatMap_of_newline_not_mem hl]
  simp

/-- The comment lines of a tooltip, respelled, are those of its lines one by one. -/
private theorem spellParameters_commented (tooltip : List Char) :
    spellParameters (commented tooltip)
      = ((tooltip.splitOn '\n').map shownLine).flatMap fun l => l ++ ['\n'] := by
  induction tooltip using lines_induction with
  | last l hl =>
    -- a tooltip ends its last line too, and nothing follows it
    rw [commented_last hl, spellParameters_break (by simp) (by simp), spellParameters_slashes,
      List.splitOn_eq_singleton hl]
    simp [shownLine]
  | line l rest hl ih =>
    -- the next line begins with the comment mark, which is neither white space nor a word
    have hblank : ∀ c ∈ (commented rest).head?, isBlank c = false := by
      rintro c ⟨⟩
      decide
    have hword : ∀ c ∈ (commented rest).head?, isWord c = false := by
      rintro c ⟨⟩
      decide +kernel
    rw [commented_line hl, spellParameters_break hblank hword, ih, spellParameters_slashes,
      List.splitOn_append_cons_self_of_not_mem hl]
    simp [shownLine]

/-- The lines of a tooltip are respelled one by one. -/
theorem tooltipLines_eq (tooltip : List Char) :
    tooltipLines tooltip = (shownLines tooltip).flatMap fun l => l ++ ['\n'] := by
  unfold tooltipLines shownLines
  split
  · rfl
  · exact spellParameters_commented tooltip

/-- The line that names the declaration. -/
private def nameLine (subject : Subject) (name : String) : List Char :=
  ("// UE4 name of this " ++ subject.word ++ ": " ++ name).toList

/-- The line that names the category, if there is one. -/
private def categoryLines (category : String) : List (List Char) :=
  if category = "" then [] else [("// Blueprint category: " ++ category).toList]

/-- All lines of a block but the empty one at its end. -/
private def blockLines (subject : Subject) (name tooltip category : String) : List (List Char) :=
  shownLines tooltip.toList ++ ["//".toList, nameLine subject name] ++ categoryLines category

private theorem block_eq (subject : Subject) (name tooltip category : String) :
    (block subject name tooltip category).toList
      = (blockLines subject name tooltip category ++ [[]]).flatMap fun l => l ++ ['\n'] := by
  have hcategory :
      (if category = "" then "" else "// Blueprint category: " ++ category ++ "\n").toList
        = (categoryLines category).flatMap fun l => l ++ ['\n'] := by
    unfold categoryLines
    split
    · rfl
    · simp
  -- line by line, the block is the text that is put together
  simp only [block, String.toList_append, String.toList_ofList, tooltipLines_eq, hcategory]
  simp [blockLines, nameLine, String.toList_append]

/-- No comment line of a tooltip goes over a line end. -/
private theorem newline_not_mem_shownLines (tooltip : List Char) :
    ∀ l ∈ shownLines tooltip, '\n' ∉ l := by
  unfold shownLines
  split
  · exact fun l h => nomatch h
  · rw [List.forall_mem_map]
    intro l hl hmem
    -- the comment mark has no line end, and the scan makes none
    rcases List.mem_append.mp hmem with hslashes | hspelled
    · exact absurd hslashes (by decide)
    · exact newline_not_mem_spellParameters l (newline_not_mem_of_mem_splitOn tooltip l hl) hspelled

/-- Each comment line of a tooltip begins with the comment mark and a space. -/
private theorem slashes_prefix_of_mem_shownLines (tooltip : List Char) :
    ∀ l ∈ shownLines tooltip, "// ".toList <+: l := by
  unfold shownLines
  split
  · exact fun l h => nomatch h
  · rw [List.forall_mem_map]
    exact fun l _ => List.prefix_append _ _

/-- A tooltip without markers is in its comment lines as it was. -/
private theorem intercalate_shownLines {tooltip : List Char} (h : HoldsNoMarker tooltip) :
    ['\n'].intercalate ((shownLines tooltip).map (List.drop 3)) = tooltip := by
  unfold shownLines
  split
  · rename_i hnone
    rw [hnone]
    rfl
  · -- a line of it has no marker either, so the scan leaves it as it is
    have hsame : ∀ l ∈ tooltip.splitOn '\n', (shownLine l).drop 3 = l := by
      intro l hl
      have hspelled := spellParameters_free (r := [])
        (h.of_isInfix (isInfix_of_mem_splitOn tooltip l hl)) (by simp [Stops])
      rw [List.append_nil, spellParameters_nil, List.append_nil] at hspelled
      rw [shownLine, hspelled]
      rfl
    have hmap : ((tooltip.splitOn '\n').map shownLine).map (List.drop 3)
        = tooltip.splitOn '\n' := by
      rw [List.map_map]
      exact (List.map_congr_left hsame).trans (List.map_id _)
    rw [hmap, List.intercalate_splitOn]

/-- No line of a block goes over a line end, if what it names does not. -/
private theorem newline_not_mem_blockLines (subject : Subject) {name category : String}
    (tooltip : String) (hname : '\n' ∉ name.toList) (hcategory : '\n' ∉ category.toList) :
    ∀ l ∈ blockLines subject name tooltip category, '\n' ∉ l := by
  have hword : '\n' ∉ subject.word.toList := by cases subject <;> decide
  have hnameLine : '\n' ∉ nameLine subject name := by
    simp [nameLine, hword, hname]
  have hcategoryLines : ∀ l ∈ categoryLines category, '\n' ∉ l := by
    unfold categoryLines
    split
    · exact fun l h => nomatch h
    · simp [hcategory]
  unfold blockLines
  rw [List.forall_mem_append, List.forall_mem_append, List.forall_mem_cons,
    List.forall_mem_singleton]
  exact ⟨⟨newline_not_mem_shownLines tooltip.toList, by decide, hnameLine⟩, hcategoryLines⟩

/-- Each line of a block begins with the comment mark. -/
private theorem slashes_prefix_of_mem_blockLines (subject : Subject)
    (name tooltip category : String) :
    ∀ l ∈ blockLines subject name tooltip category, "//".toList <+: l := by
  have hshown : ∀ l ∈ shownLines tooltip.toList, "//".toList <+: l := fun l hl =>
    List.IsPrefix.trans (by decide) (slashes_prefix_of_mem_shownLines _ l hl)
  have hnameLine : "//".toList <+: nameLine subject name := by
    simp [nameLine]
  have hcategoryLines : ∀ l ∈ categoryLines category, "//".toList <+: l := by
    unfold categoryLines
    split
    · exact fun l h => nomatch h
    · simp
  unfold blockLines
  rw [List.forall_mem_append, List.forall_mem_append, List.forall_mem_cons,
    List.forall_mem_singleton]
  exact ⟨⟨hshown, List.prefix_refl _, hnameLine⟩, hcategoryLines⟩

/-- A comment block has only comments in it: split at its line ends, it is a number of lines that
    begin with the comment mark, and two empty ones. The first of these lines are those of the
    tooltip, which can be read off from them if it has no markers. -/
theorem splitOn_blockOf (subject : Subject) {name category : String} (tooltip : String)
    (hname : '\n' ∉ name.toList) (hcategory : '\n' ∉ category.toList) :
    ∃ shown lines,
      blockOf subject (.text name) (.text tooltip) (.text category) = .ok shown ∧
      shown.toList.splitOn '\n' = lines ++ [[], []] ∧
      (∀ l ∈ lines, "//".toList <+: l) ∧
      (shown.toList.splitOn '\n').length
        = 4 + lineCount tooltip.toList + (if category = "" then 0 else 1) ∧
      (∀ l ∈ lines.take (lineCount tooltip.toList), "// ".toList <+: l) ∧
      (HoldsNoMarker tooltip.toList →
        ['\n'].intercalate ((lines.take (lineCount tooltip.toList)).map (List.drop 3))
          = tooltip.toList) := by
  have hplaced : (if (Json.text category).isTelling then (Json.text category).shown else "")
      = category := by
    by_cases h : category = ""
    · subst h
      rfl
    · rw [if_pos (by simpa [Json.isTelling, Scalar.isTelling] using h)]
      rfl
  -- every line of the block is ended, so one empty line follows them
  have hsplit : (block subject name tooltip category).toList.splitOn '\n'
      = blockLines subject name tooltip category ++ [[], []] := by
    rw [block_eq, splitOn_ended, List.append_assoc]
    · rfl
    · rw [List.forall_mem_append, List.forall_mem_singleton]
      exact ⟨newline_not_mem_blockLines subject tooltip hname hcategory, by decide⟩
  -- the comment lines of the tooltip come first, and there are as many as it has lines
  have hfirst : (blockLines subject name tooltip category).take (lineCount tooltip.toList)
      = shownLines tooltip.toList := by
    rw [blockLines, List.append_assoc, ← length_shownLines, List.take_left]
  refine ⟨block subject name tooltip category, blockLines subject name tooltip category,
    ?_, hsplit, ?_, ?_, ?_, ?_⟩
  · rw [blockOf_text, hplaced]
    rfl
  · exact slashes_prefix_of_mem_blockLines subject name tooltip category
  · have hcount : (categoryLines category).length = if category = "" then 0 else 1 := by
      unfold categoryLines
      split <;> rfl
    rw [hsplit, ← length_shownLines, ← hcount, blockLines]
    simp only [List.length_append, List.length_cons, List.length_nil]
    omega
  · rw [hfirst]
    exact slashes_prefix_of_mem_shownLines tooltip.toList
  · rw [hfirst]
    exact intercalate_shownLines

/-- A marker at the end of a line and of the tooltip, and an empty line between them. Another
    tooltip has no marker, only what begins like one, and is read off again. -/
theorem splitOn_blockOf_markersAtEnds :
    '\n' ∉ "Turn".toList ∧ '\n' ∉ "Motion".toList ∧
    (∃ shown lines,
      blockOf .method (.text "Turn") (.text "Turns it. @param\n\n@param") (.text "Motion")
        = .ok shown ∧
      shown.toList.splitOn '\n' = lines ++ [[], []] ∧
      (∀ l ∈ lines, "//".toList <+: l) ∧
      (shown.toList.splitOn '\n').length = 4 + 3 + 1) ∧
    HoldsNoMarker "Turns @para.\n\n// twice".toList ∧
    ∃ shown lines,
      blockOf .method (.text "Turn") (.text "Turns @para.\n\n// twice") (.text "Motion")
        = .ok shown ∧
      shown.toList.splitOn '\n' = lines ++ [[], []] ∧
      (∀ l ∈ lines.take 3, "// ".toList <+: l) ∧
      ['\n'].intercalate ((lines.take 3).map (List.drop 3))
        = "Turns @para.\n\n// twice".toList := by
  have hname : '\n' ∉ "Turn".toList := by decide
  have hcategory : '\n' ∉ "Motion".toList := by decide
  have hfree : HoldsNoMarker "Turns @para.\n\n// twice".toList := by decide
  refine ⟨hname, hcategory, ?_, hfree, ?_⟩
  · obtain ⟨shown, lines, hblock, hsplit, hlines, hlength, -⟩ :=
      splitOn_blockOf .method "Turns it. @param\n\n@param" hname hcategory
    exact ⟨shown, lines, hblock, hsplit, hlines, hlength⟩
  · obtain ⟨shown, lines, hblock, hsplit, -, -, hshown, hback⟩ :=
      splitOn_blockOf .method "Turns @para.\n\n// twice" hname hcategory
    exact ⟨shown, lines, hblock, hsplit, hshown, hback hfree⟩

end ScriptBindings.Comment

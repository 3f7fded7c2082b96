import Mathlib.Data.List.Infix
import ScriptBindings.Comment
import ScriptBindings.Proofs.Runs

/-!
# Parameter names in comments

A tooltip is respelled in one scan, which goes on behind each parameter name. The outcome is the
same as if the text was cut before and after every marker and each piece behind a marker was
respelled on its own: an `@` stands in no white space, in no word and only at the beginning of a
marker, so neither a name nor a marker goes over into the next one.

## Key results

- `isMarker_eq`: a marker is an `@` and five letters
- `marker_induction`: induction along the markers of a text
- `spellParameters_marker` / `spellParameters_cons`: the scan at a marker and elsewhere
- `exists_cut` / `IsAtMarkers.mem_of_marker`: a text can be cut at its markers, and at all of them
- `spellParameters_cut`: the scan respells the pieces of a cut one by one
- `blockOf_respelled`: the tooltip in a comment block
-/

namespace ScriptBindings.Comment

open Text

/-! ## Markers -/

/-- The only character that is an `@` in small letters. -/
private theorem eq_at_of_toLower {c : Char} (h : c.toLower = '@') : c = '@' := by
  unfold Char.toLower at h
  split at h
  · -- a capital letter becomes a letter, which an `@` is not
    rename_i hupper
    have hval := congrArg (fun d : Char => d.val.toNat) h
    have hfirst := UInt32.le_iff_toNat_le.mp hupper.1
    have hlast := UInt32.le_iff_toNat_le.mp hupper.2
    simp at hval hfirst hlast
    omega
  · exact h

variable {m s r : List Char} {c : Char}

/-- A marker is an `@` and five letters. -/
theorem isMarker_eq (h : isMarker m = true) :
    ∃ letters, m = '@' :: letters ∧ letters.length = 5 ∧
      ∀ c ∈ letters, c.toLower ∈ "param".toList := by
  have hmap : m.map Char.toLower = '@' :: "param".toList := by simpa [isMarker] using h
  obtain ⟨c, letters, rfl, hat, hletters⟩ := List.map_eq_cons_iff.mp hmap
  refine ⟨letters, by rw [eq_at_of_toLower hat], ?_, fun d hd => ?_⟩
  · -- small letters are as many as the letters they are made of
    have := congrArg List.length hletters
    simpa using this
  · rw [← hletters]
    exact List.mem_map_of_mem hd

theorem length_of_isMarker (h : isMarker m = true) : m.length = 6 := by
  obtain ⟨letters, rfl, hlength, -⟩ := isMarker_eq h
  rw [List.length_cons, hlength]

/-- The text does not go on with one of the letters of a marker. -/
def Stops (r : List Char) : Prop :=
  ∀ c ∈ r.head?, c.toLower ∉ "param".toList

/-- A marker that begins in a text ends in it, if the text stops there. -/
theorem isPrefix_of_stops (hm : isMarker m = true) (hs : s ≠ []) (hr : Stops r)
    (h : m <+: s ++ r) : m <+: s := by
  obtain ⟨letters, rfl, -, hletters⟩ := isMarker_eq hm
  obtain ⟨c, s, rfl⟩ := List.exists_cons_of_ne_nil hs
  -- the first character is one of the text, and the others stop with it
  rw [List.cons_append, List.cons_prefix_cons] at h
  refine List.cons_prefix_cons.mpr ⟨h.1, isPrefix_of_head (fun d hd hmem => ?_) h.2⟩
  exact hr d hd (hletters d hmem)

/-- A marker begins with an `@`. -/
theorem head_marker (hm : isMarker m = true) : ∀ c ∈ (m ++ s).head?, c = '@' := by
  obtain ⟨letters, rfl, -⟩ := isMarker_eq hm
  intro c hc
  simpa [eq_comm] using hc

theorem stops_of_head (h : ∀ c ∈ r.head?, c = '@') : Stops r :=
  fun c hc => by rw [h c hc]; decide

/-- Induction along the markers of a text. Behind a marker, something is known of all that is left
    of the text from some place on. -/
theorem marker_induction {motive : List Char → Prop} (nil : motive [])
    (marker : ∀ m rest, isMarker m = true → (∀ t, t <:+ rest → motive t) → motive (m ++ rest))
    (other : ∀ c rest, (∀ m, isMarker m = true → ¬ m <+: c :: rest) → motive rest →
      motive (c :: rest))
    (s : List Char) : motive s := by
  -- on the length: behind a marker the induction goes on at any place, not only at the next one
  induction hn : s.length using Nat.strongRecOn generalizing s with
  | _ n ih =>
    by_cases h : ∃ m, isMarker m = true ∧ m <+: s
    · obtain ⟨m, hm, rest, rfl⟩ := h
      refine marker m rest hm fun t ht => ih t.length ?_ t rfl
      have hlength := ht.length_le
      have hmarker := length_of_isMarker hm
      rw [List.length_append] at hn
      omega
    · cases s with
      | nil => exact nil
      | cons c rest =>
        refine other c rest (fun m hm hbegins => h ⟨m, hm, hbegins⟩) (ih rest.length ?_ rest rfl)
        rw [List.length_cons] at hn
        omega

/-! ## The scan -/

/-- The text behind a marker with the name of the parameter respelled: the word behind the white
    space that the text begins with. -/
def spellNamed (s : List Char) : List Char :=
  let named := s.dropWhile isBlank
  s.takeWhile isBlank ++ Name.ofVariable (named.takeWhile isWord) false false
    ++ named.dropWhile isWord

/-- What stands behind the name of a parameter is the rest of the text. -/
theorem behindName_suffix (s : List Char) : (s.dropWhile isBlank).dropWhile isWord <:+ s :=
  (List.dropWhile_suffix isWord).trans (List.dropWhile_suffix isBlank)

@[simp] theorem spellParameters_nil : spellParameters [] = [] := by
  simp [spellParameters]

/-- The scan at a marker. -/
theorem spellParameters_marker (hm : isMarker m = true) (rest : List Char) :
    spellParameters (m ++ rest) =
      m ++ rest.takeWhile isBlank
        ++ Name.ofVariable ((rest.dropWhile isBlank).takeWhile isWord) false false
        ++ spellParameters ((rest.dropWhile isBlank).dropWhile isWord) := by
  -- the scan looks at six characters at a time
  obtain ⟨c₁, c₂, c₃, c₄, c₅, c₆, rfl⟩ : ∃ c₁ c₂ c₃ c₄ c₅ c₆, m = [c₁, c₂, c₃, c₄, c₅, c₆] := by
    have hlength := length_of_isMarker hm
    match m, hlength with
    | [c₁, c₂, c₃, c₄, c₅, c₆], _ => exact ⟨c₁, c₂, c₃, c₄, c₅, c₆, rfl⟩
  simp only [List.cons_append, List.nil_append, spellParameters, hm, if_true]

/-- The scan where there is no marker. -/
theorem spellParameters_cons {rest : List Char} (h : ∀ m, isMarker m = true → ¬ m <+: c :: rest) :
    spellParameters (c :: rest) = c :: spellParameters rest := by
  -- fewer than six characters are no marker
  match rest with
  | c₂ :: c₃ :: c₄ :: c₅ :: c₆ :: rest =>
    have hno : ¬ isMarker [c, c₂, c₃, c₄, c₅, c₆] = true := fun hm => h _ hm ⟨rest, rfl⟩
    rw [spellParameters, if_neg hno]
  | [] | [_] | [_, _] | [_, _, _] | [_, _, _, _] => simp [spellParameters]

/-! ## Texts cut at their markers -/

/-- There is no marker in the text. -/
def HoldsNoMarker (s : List Char) : Prop :=
  ∀ m, isMarker m = true → ¬ m <:+: s

/-- Six characters at each place tell whether there is a marker in a text. -/
theorem holdsNoMarker_iff :
    HoldsNoMarker s ↔ ∀ t ∈ s.tails, isMarker (t.take 6) = false := by
  constructor
  · intro h t ht
    rw [Bool.eq_false_iff]
    intro hm
    -- six characters at one place are a part of the text
    have hsuffix : t <:+ s := (List.mem_tails _ _).mp ht
    exact h _ hm ((List.take_prefix 6 t).isInfix.trans hsuffix.isInfix)
  · rintro h m hm ⟨before, behind, rfl⟩
    -- a marker begins at the place of one of the tails
    have htail := h (m ++ behind) ((List.mem_tails _ _).mpr ⟨before, by simp⟩)
    rw [← length_of_isMarker hm, List.take_left] at htail
    exact Bool.false_ne_true (htail.symm.trans hm)

instance : Decidable (HoldsNoMarker s) :=
  decidable_of_iff _ holdsNoMarker_iff.symm

theorem HoldsNoMarker.of_isInfix {t : List Char} (h : HoldsNoMarker s) (ht : t <:+: s) :
    HoldsNoMarker t :=
  fun m hm hmt => h m hm (hmt.trans ht)

/-- A text that is cut into pieces: one before all markers, and behind each marker the piece up to
    the next one. -/
structure Cut where
  before : List Char
  marked : List (List Char × List Char)

namespace Cut

/-- The text that was cut. -/
def text (c : Cut) : List Char :=
  c.before ++ c.marked.flatMap fun p => p.1 ++ p.2

/-- The text with the name of the parameter respelled in each piece behind a marker. -/
def spelled (c : Cut) : List Char :=
  c.before ++ c.marked.flatMap fun p => p.1 ++ spellNamed p.2

/-- The cuts go before and after each marker of the text. -/
structure IsAtMarkers (c : Cut) : Prop where
  before : HoldsNoMarker c.before
  marker : ∀ p ∈ c.marked, isMarker p.1 = true
  piece : ∀ p ∈ c.marked, HoldsNoMarker p.2

theorem isAtMarkers_iff (c : Cut) :
    c.IsAtMarkers ↔ HoldsNoMarker c.before
      ∧ ∀ p ∈ c.marked, isMarker p.1 = true ∧ HoldsNoMarker p.2 :=
  ⟨fun ⟨before, marker, piece⟩ => ⟨before, fun p hp => ⟨marker p hp, piece p hp⟩⟩,
    fun ⟨before, marked⟩ => ⟨before, fun p hp => (marked p hp).1, fun p hp => (marked p hp).2⟩⟩

instance (c : Cut) : Decidable c.IsAtMarkers :=
  decidable_of_iff _ (isAtMarkers_iff c).symm

end Cut

/-- Each text can be cut at its markers. -/
theorem exists_cut (s : List Char) : ∃ c : Cut, c.text = s ∧ c.IsAtMarkers := by
  induction s using marker_induction with
  | nil => exact ⟨⟨[], []⟩, rfl, by decide⟩
  | marker m rest hm ih =>
    -- the piece behind the marker is what the rest of the text has before its markers
    obtain ⟨c, rfl, hbefore, hmarker, hpiece⟩ := ih rest (List.suffix_refl rest)
    have hnil : HoldsNoMarker [] := by decide
    refine ⟨⟨[], (m, c.before) :: c.marked⟩, by simp [Cut.text], hnil, ?_, ?_⟩
    · exact List.forall_mem_cons.mpr ⟨hm, hmarker⟩
    · exact List.forall_mem_cons.mpr ⟨hbefore, hpiece⟩
  | other c rest h ih =>
    obtain ⟨k, rfl, hbefore, hmarker, hpiece⟩ := ih
    refine ⟨⟨c :: k.before, k.marked⟩, rfl, fun m hm hpart => ?_, hmarker, hpiece⟩
    -- a marker in the longer piece begins at its first character or was there before
    rcases List.infix_cons_iff.mp hpart with hbegins | hpart
    · exact h m hm (hbegins.trans ⟨_, rfl⟩)
    · exact hbefore m hm hpart

/-- Two markers of a text are the same one, or one stands behind the other. -/
-- by which of the two is longer
private theorem marker_append_cases {m' a y v : List Char} (hm' : isMarker m' = true)
    (hm : isMarker m = true) (h : m' ++ y = a ++ (m ++ v)) :
    (a = [] ∧ m' = m) ∨ ∃ between, a = m' ++ between ∧ y = between ++ (m ++ v) := by
  rcases List.append_eq_append_iff.mp h with ⟨between, rfl, hy⟩ | ⟨excess, rfl, hexcess⟩
  · -- the second marker stands behind the first one
    exact .inr ⟨between, rfl, hy⟩
  · obtain ⟨letters, hat, -, hletters⟩ := isMarker_eq hm'
    obtain ⟨letters', rfl, -⟩ := isMarker_eq hm
    cases a with
    | nil => exact .inl ⟨rfl, (List.append_inj_left hexcess (by
        rw [length_of_isMarker hm, ← length_of_isMarker hm', List.nil_append])).symm⟩
    | cons c a =>
      -- the second one would begin with a letter of the first one, or right behind it
      cases excess with
      | nil => exact .inr ⟨[], by simp, by simpa using hexcess.symm⟩
      | cons d excess =>
        exfalso
        obtain rfl := (List.cons.inj hexcess).1
        obtain ⟨-, rfl⟩ := List.cons.inj hat
        exact absurd (hletters '@' (by simp)) (by decide)

/-- The cuts of a text go before and after all of its markers. -/
theorem Cut.IsAtMarkers.mem_of_marker {c : Cut} (hc : c.IsAtMarkers) {u v : List Char}
    (hm : isMarker m = true) (h : c.text = u ++ (m ++ v)) :
    ∃ cut piece rest, c.marked = cut ++ (m, piece) :: rest ∧ u = Cut.text ⟨c.before, cut⟩ := by
  obtain ⟨before, marked⟩ := c
  induction marked generalizing before u with
  | nil =>
    refine absurd ⟨u, v, ?_⟩ (hc.before m hm)
    -- along the pieces, each of which is the beginning of the text behind its marker
    simpa [Cut.text] using h.symm
  | cons p marked ih =>
    obtain ⟨m', t⟩ := p
    have hm' : isMarker m' = true := hc.marker (m', t) (by simp)
    have hrest : (Cut.mk t marked).IsAtMarkers :=
      ⟨hc.piece (m', t) (by simp), fun p hp => hc.marker p (List.mem_cons_of_mem _ hp),
        fun p hp => hc.piece p (List.mem_cons_of_mem _ hp)⟩
    have htext : Cut.text ⟨before, (m', t) :: marked⟩
        = before ++ (m' ++ Cut.text ⟨t, marked⟩) := by
      simp [Cut.text]
    -- the marker that is looked for stands at the first cut or behind it
    have hbehind : ∀ a, u = before ++ a → m' ++ Cut.text ⟨t, marked⟩ = a ++ (m ++ v) →
        ∃ cut piece rest, (m', t) :: marked = cut ++ (m, piece) :: rest
          ∧ u = Cut.text ⟨before, cut⟩ := by
      rintro a rfl hmarker
      rcases marker_append_cases hm' hm hmarker with ⟨rfl, rfl⟩ | ⟨between, rfl, htail⟩
      · exact ⟨[], t, marked, rfl, by simp [Cut.text]⟩
      · obtain ⟨cut, piece, rest, hcut, rfl⟩ := ih t hrest htail
        exact ⟨(m', t) :: cut, piece, rest, congrArg ((m', t) :: ·) hcut, by simp [Cut.text]⟩
    rw [htext] at h
    rcases List.append_eq_append_iff.mp h with ⟨a, hu, hmarker⟩ | ⟨excess, hbefore, hexcess⟩
    · exact hbehind a hu hmarker
    · by_cases hnone : excess = []
      · subst hnone
        exact hbehind [] (by simpa using hbefore.symm) hexcess.symm
      · -- the marker would begin before the first one and go over into it
        exfalso
        have hstops : Stops (m' ++ Cut.text ⟨t, marked⟩) := stops_of_head (head_marker hm')
        have hbegins : m <+: excess := isPrefix_of_stops hm hnone hstops ⟨v, hexcess⟩
        rw [hbefore] at hc
        exact hc.before m hm (hbegins.isInfix.trans (List.suffix_append u excess).isInfix)

/-! ## The scan over a cut text -/

/-- The scan leaves a text without markers as it is. -/
theorem spellParameters_free (hs : HoldsNoMarker s) (hr : Stops r) :
    spellParameters (s ++ r) = s ++ spellParameters r := by
  induction s with
  | nil => rfl
  | cons c s ih =>
    -- a marker would begin in the text and so end in it
    have hno : ∀ m, isMarker m = true → ¬ m <+: c :: (s ++ r) := fun m hm hbegins =>
      hs m hm (isPrefix_of_stops hm (List.cons_ne_nil c s) hr hbegins).isInfix
    rw [List.cons_append, spellParameters_cons hno,
      ih (hs.of_isInfix (List.suffix_cons c s).isInfix), List.cons_append]

/-- The scan at a marker, if another one or the end of the text follows the piece behind it. -/
private theorem spellParameters_piece (hm : isMarker m = true) (hs : HoldsNoMarker s)
    (hr : ∀ c ∈ r.head?, c = '@') :
    spellParameters (m ++ (s ++ r)) = m ++ (spellNamed s ++ spellParameters r) := by
  have hblank : ∀ c ∈ r.head?, isBlank c = false := fun c hc => by rw [hr c hc]; decide
  have hword : ∀ c ∈ r.head?, isWord c = false := fun c hc => by rw [hr c hc]; decide +kernel
  -- what is left behind the name has no marker either
  have hbehind : HoldsNoMarker ((s.dropWhile isBlank).dropWhile isWord) :=
    hs.of_isInfix (behindName_suffix s).isInfix
  rw [spellParameters_marker hm, takeWhile_append_of_head hblank, dropWhile_append_of_head hblank,
    takeWhile_append_of_head hword, dropWhile_append_of_head hword,
    spellParameters_free hbehind (stops_of_head hr)]
  simp [spellNamed]

/-- The pieces behind the first one begin with a marker, if there are any. -/
private theorem head_marked {marked : List (List Char × List Char)}
    (h : ∀ p ∈ marked, isMarker p.1 = true) :
    ∀ c ∈ (marked.flatMap fun p => p.1 ++ p.2).head?, c = '@' := by
  cases marked with
  | nil => simp
  | cons p marked =>
    rw [List.flatMap_cons, List.append_assoc]
    exact head_marker (h p (by simp))

/-- The scan respells the pieces of a cut text one by one. -/
theorem spellParameters_cut {c : Cut} (hc : c.IsAtMarkers) :
    spellParameters c.text = c.spelled := by
  -- piece by piece; behind each of them the next marker stands, or nothing
  have hmarked : ∀ marked : List (List Char × List Char),
      (∀ p ∈ marked, isMarker p.1 = true) → (∀ p ∈ marked, HoldsNoMarker p.2) →
      spellParameters (marked.flatMap fun p => p.1 ++ p.2)
        = marked.flatMap fun p => p.1 ++ spellNamed p.2 := by
    intro marked hmarker hpiece
    induction marked with
    | nil => exact spellParameters_nil
    | cons p marked ih =>
      rw [List.forall_mem_cons] at hmarker hpiece
      rw [List.flatMap_cons, List.flatMap_cons, List.append_assoc,
        spellParameters_piece hmarker.1 hpiece.1 (head_marked hmarker.2),
        ih hmarker.2 hpiece.2, List.append_assoc]
  rw [Cut.text, spellParameters_free hc.before (stops_of_head (head_marked hc.marker)),
    hmarked c.marked hc.marker hc.piece, Cut.spelled]

/-! ## The comment block -/

/-- A tooltip that is a text always has a block. -/
theorem blockOf_text (subject : Subject) (name : Json) (tooltip : String) (category : Json) :
    blockOf subject name (.text tooltip) category =
      .ok (block subject name.shown tooltip
        (if category.isTelling then category.shown else "")) := by
  by_cases h : tooltip = ""
  · subst h
    rfl
  · have htelling : (Json.text tooltip).isTelling = true := by
      simpa [Json.isTelling, Scalar.isTelling] using h
    simp only [blockOf, htelling, if_true]
    rfl

/-- In the block of a declaration, the lines of its tooltip stand before the block that it has
    without a tooltip. With the tooltip cut before and after each of its markers, these lines are
    the tooltip as comment lines in which each piece behind a marker has the name it begins with
    respelled, and all else is kept. -/
theorem blockOf_respelled (subject : Subject) (name category : Json) {tooltip : String}
    (htooltip : tooltip ≠ "") :
    (∃ c : Cut, c.text = commented tooltip.toList ∧ c.IsAtMarkers) ∧
    ∀ c : Cut, c.text = commented tooltip.toList → c.IsAtMarkers →
      (∀ u m v, isMarker m = true → c.text = u ++ (m ++ v) →
        ∃ cut piece rest, c.marked = cut ++ (m, piece) :: rest ∧ u = Cut.text ⟨c.before, cut⟩) ∧
      ∃ rest, blockOf subject name (.text "") category = .ok rest ∧
        blockOf subject name (.text tooltip) category = .ok (String.ofList c.spelled ++ rest) := by
  refine ⟨exists_cut _, fun c hc hmarkers => ⟨fun u m v hm h => hmarkers.mem_of_marker hm h,
    _, blockOf_text subject name "" category, ?_⟩⟩
  -- the lines of the tooltip are the cut text
  have hlines : tooltipLines tooltip.toList = c.spelled := by
    rw [tooltipLines, if_neg (by simpa using htooltip), ← hc, spellParameters_cut hmarkers]
  have hnone : tooltipLines "".toList = [] := rfl
  rw [blockOf_text, block, block, hlines, hnone]
  simp only [String.append_assoc, String.ofList_nil, String.empty_append]

/-- Markers side by side, within a word, at the end of a line and before white space. -/
theorem blockOf_respelled_sideBySide :
    "@Param@paramNewX, see @params.\n@PARAM\n@param  bIsOn" ≠ "" ∧
    blockOf .method (.text "Turn")
        (.text "@Param@paramNewX, see @params.\n@PARAM\n@param  bIsOn") (.text "")
      = .ok ("// @Param@paramnew_x, see @params.\n// @PARAM\n// @param  is_on\n"
          ++ "//\n// UE4 name of this method: Turn\n\n") := by
  have htooltip : "@Param@paramNewX, see @params.\n@PARAM\n@param  bIsOn" ≠ "" := by decide
  refine ⟨htooltip, ?_⟩
  obtain ⟨rest, hrest, hblock⟩ :=
    ((blockOf_respelled .method (.text "Turn") (.text "") htooltip).2
      ⟨"// ".toList,
        [("@Param".toList, []), ("@param".toList, "NewX, see ".toList),
          ("@param".toList, "s.\n// ".toList), ("@PARAM".toList, "\n// ".toList),
          ("@param".toList, "  bIsOn\n".toList)]⟩
      (by decide) (by decide +kernel)).2
  obtain rfl : "//\n// UE4 name of this method: Turn\n\n" = rest := by
    rw [blockOf_text] at hrest
    exact Except.ok.inj hrest
  rw [hblock]
  decide +kernel

end ScriptBindings.Comment

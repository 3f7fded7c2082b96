import ScriptBindings.Proofs.Places

/-!
# Making directories on the way

Making a directory with those that lead to it, whether that succeeds or fails half-way, adds
directories on the way and changes nothing else.

## Key results

- `makeDirectories_adds`: what is added lies on the way, and all else stays
- `makeDirectories_of_isDirectory`: nothing is done where the directory is there
- `makeDirectories_fresh`: the directory is as it was, or there is nothing in it yet
- `fault_of_makeDirectories`: a path without null characters does not fail for one
-/

namespace ScriptBindings.FileTree

variable {t t' t₁ t₂ : FileTree} {p : FilePath} {k d : Location}

/-- A beginning of the path leads to the directory at `k`. -/
def OnWay (t : FileTree) (p : FilePath) (k : Location) : Prop :=
  ∃ ps, ps <+: p.parts ∧ t.walk false ⟨p.root, ps⟩ = .ok (.directory k)

/-- The tree has all entries of another one, and directories on the way along the path. -/
structure AddsDirectories (t t' : FileTree) (p : FilePath) : Prop extends Grows t t' where
  onWay : ∀ k e, t.lookup k = none → t'.lookup k = some e → e = .directory ∧ t'.OnWay p k

theorem OnWay.mono (h : t.OnWay p k) (hg : t.Grows t') : t'.OnWay p k := by
  obtain ⟨ps, hps, hw⟩ := h
  exact ⟨ps, hps, walk_directory_mono hg.keepsWays hg.here_eq hw⟩

theorem AddsDirectories.refl (t : FileTree) (p : FilePath) : AddsDirectories t t p :=
  ⟨Grows.refl t, fun _ _ hk he => by rw [hk] at he; exact nomatch he⟩

theorem AddsDirectories.trans (h : AddsDirectories t t₁ p) (h' : AddsDirectories t₁ t₂ p) :
    AddsDirectories t t₂ p := by
  refine ⟨h.toGrows.trans h'.toGrows, fun k e hk he => ?_⟩
  -- an entry that is new in the end was made by the first one or by the second
  cases h₁ : t₁.lookup k with
  | none => exact h'.onWay k e h₁ he
  | some e₁ =>
    -- what the first one has added the second one keeps
    obtain ⟨rfl, hway⟩ := h.onWay k e₁ hk h₁
    rw [h'.keeps k .directory h₁] at he
    exact ⟨(Option.some.inj he).symm, hway.mono h'.toGrows⟩

/-- What lies on the way along the first parts lies on the way along all of them. -/
theorem AddsDirectories.further {root : PathRoot} {ps qs : List String}
    (h : AddsDirectories t t' ⟨root, ps⟩) (hps : ps <+: qs) : AddsDirectories t t' ⟨root, qs⟩ := by
  refine ⟨h.toGrows, fun k e hk he => ?_⟩
  obtain ⟨hdir, rs, hrs, hw⟩ := h.onWay k e hk he
  exact ⟨hdir, rs, hrs.trans hps, hw⟩

/-- Every entry is the same, or a directory that is new. -/
theorem AddsDirectories.same (h : AddsDirectories t t' p) (k : Location) :
    t'.lookup k = t.lookup k ∨ (t.lookup k = none ∧ t'.lookup k = some .directory) := by
  -- an entry that is there is kept, and one that is new is a directory
  cases hk : t.lookup k with
  | some e => exact .inl (h.keeps k e hk)
  | none =>
    cases hk' : t'.lookup k with
    | none => exact .inl rfl
    | some e => exact .inr ⟨rfl, by rw [(h.onWay k e hk hk').1]⟩

/-! ## One directory -/

/-- Making one directory adds it. -/
theorem makeDirectory_adds (h : t.makeDirectory p = .ok t') : AddsDirectories t t' p := by
  obtain ⟨k, hw, rfl⟩ := makeDirectory_eq_ok.mp h
  obtain ⟨hv, hne⟩ := vacant_of_walk hw
  have hgrows := grows_put hne hv Node.isBare_directory
  refine ⟨hgrows, fun j e hj he => ?_⟩
  rcases put_vacant hne hv Node.isBare_directory with heq | hput
  · rw [heq, hj] at he
    exact nomatch he
  · by_cases hjk : j = k
    · -- the new entry is the directory itself, at the end of the whole path
      subst hjk
      have hmade : (t.put j (.directory [])).lookup j = some .directory := by
        rw [hput, if_pos rfl]; rfl
      rw [hmade] at he
      refine ⟨(Option.some.inj he).symm, p.parts, List.prefix_refl _, ?_⟩
      exact walk_filled hgrows.keepsWays hgrows.here_eq hw (.inl rfl) hmade nofun
    · -- no other entry is new
      rw [hput, if_neg hjk, hj] at he
      exact nomatch he

/-- There is nothing below the location. -/
def IsFresh (t : FileTree) (d : Location) : Prop :=
  ∀ k, d <:+ k → k ≠ d → t.lookup k = none

/-- A directory that has just been made is empty. -/
theorem makeDirectory_fresh (h : t.makeDirectory p = .ok t')
    (hd : t'.walk true p = .ok (.directory d)) : t'.IsFresh d := by
  obtain ⟨k, hw, rfl⟩ := makeDirectory_eq_ok.mp h
  obtain ⟨hv, hne⟩ := vacant_of_walk hw
  have htrue : t.walk true p = .ok (.vacant k) := by
    -- a walk that ends in nothing ends in no link
    rw [walk_true_of_false (by simp [hw]), hw]
  rcases put_vacant hne hv Node.isBare_directory with heq | hput
  · -- nothing was put in, so the walk would end in nothing still
    rw [heq, htrue] at hd
    simp at hd
  · -- the walk that ended in nothing ends at the new directory now
    have hgrows := grows_put hne hv Node.isBare_directory
    have hmade : (t.put k (.directory [])).lookup k = some .directory := by
      rw [hput, if_pos rfl]; rfl
    have hfilled := walk_filled hgrows.keepsWays hgrows.here_eq htrue (.inl rfl) hmade (by simp)
    obtain rfl : k = d := by simpa [placeOf, hfilled] using hd
    intro j hj hjk
    rw [hput, if_neg hjk, lookup_eq_none_of_suffix (by simp [hv]) hj hjk]

/-! ## All directories -/

/-- Whatever comes of making directories, it adds directories on the way. -/
private theorem makeDirectoriesFrom_adds (t : FileTree) (root : PathRoot) (room : Nat)
    (rev : List String) :
    AddsDirectories t (t.makeDirectoriesFrom root room rev).2 ⟨root, rev.reverse⟩ := by
  induction room generalizing rev with
  | zero => cases rev <;> exact .refl t _
  | succ room ih =>
    -- along the parts from the last one back to the root, as the directories are made
    cases rev with
    | nil => exact .refl t _
    | cons name outer =>
      have houter : AddsDirectories t (t.makeDirectoriesFrom root room outer).2
          ⟨root, (name :: outer).reverse⟩ := (ih outer).further (by simp)
      simp only [makeDirectoriesFrom]
      -- the directory could be made at once
      split
      · rename_i made hm
        exact makeDirectory_adds hm
      · -- the parent is made first
        -- the parent has been made, or the making of it has stopped somewhere
        split
        · rename_i fault grown hg
          rwa [hg] at houter
        · rename_i grown hg
          rw [hg] at houter
          split
          · rename_i made hm
            exact houter.trans (makeDirectory_adds hm)
          · split <;> exact houter
      · -- the directory is there, or something else is in its way
        split <;> exact .refl t _

/-- Whatever comes of making a directory with those that lead to it, it adds directories on the
    way. -/
theorem makeDirectories_adds (t : FileTree) (p : FilePath) :
    AddsDirectories t (t.makeDirectories p).2 p := by
  have := makeDirectoriesFrom_adds t p.root maxMissing p.parts.reverse
  rwa [List.reverse_reverse] at this

/-- Nothing is done where the directory is there. -/
theorem makeDirectories_of_isDirectory (h : t.isDirectory p = true) :
    t.makeDirectories p = (.ok (), t) := by
  obtain ⟨d, hd⟩ := isDirectory_iff.mp h
  unfold makeDirectories
  cases hrev : p.parts.reverse with
  | nil => rfl
  | cons name outer =>
    have hp : (⟨p.root, (name :: outer).reverse⟩ : FilePath) = p := by
      rw [← hrev, List.reverse_reverse]
    obtain ⟨room, hroom⟩ : ∃ room, maxMissing = room + 1 := ⟨_, rfl⟩
    rw [hroom]
    simp only [makeDirectoriesFrom, hp]
    split
    · rename_i made hm
      -- nothing lies where a directory can be made, and there is one
      obtain ⟨k, hw, -⟩ := makeDirectory_eq_ok.mp hm
      rw [walk_true_of_false (by simp [hw]), hw] at hd
      exact nomatch hd
    · rename_i hm
      -- a directory that is there is not missing
      rcases makeDirectory_eq_error hm with hw | ⟨hw, -⟩
      · rw [walk_true_of_false (by simp [hw]), hw] at hd
        exact nomatch hd
      · exact nomatch hw
    · -- the test for the directory is what the program falls back to
      rw [if_pos h]

/-- A way up never ends in nothing. -/
private theorem walkLinks_ups {fl : Bool} {n : Nat} {at_ : Location} {names : List String}
    (h : ∀ name ∈ names, name = "..") : ∃ d, walkLinks t fl n at_ names = .ok (.directory d) := by
  induction names generalizing at_ with
  | nil => exact ⟨at_, walkLinks_nil⟩
  | cons name names ih =>
    -- above a directory there is one, so the way up goes on
    obtain rfl := h name List.mem_cons_self
    rw [walkLinks_up]
    exact ih fun x hx => h x (List.mem_cons_of_mem _ hx)

/-- Where a directory can only be made after its parent, it is not reached by going up. -/
private theorem ne_up_of_walk_missing {root : PathRoot} {ps : List String} {name : String}
    (hn : FilePath.IsNormal ⟨root, ps ++ [name]⟩) (hc : FilePath.ClimbsFirst ⟨root, ps ++ [name]⟩)
    (h : t.walk false ⟨root, ps ++ [name]⟩ = .error .missing) : name ≠ ".." := by
  rintro rfl
  -- if the last part goes up, all of them do
  have hups : ∀ part ∈ ps ++ [".."], part = ".." := by
    intro part hpart
    rcases List.mem_append.mp hpart with hmem | hmem
    · exact (List.pairwise_append.mp hc).2.2 part hmem ".." (by simp) rfl
    · simpa using hmem
  rw [walk_eq (faultOf?_of_walk_missing h), hn.names_eq] at h
  obtain ⟨d, hd⟩ : ∃ d, walkLinks t false maxLinks (t.start ⟨root, ps ++ [".."]⟩) (ps ++ [".."]) =
      .ok (.directory d) := walkLinks_ups hups
  rw [hd] at h
  exact nomatch h

/-- In an empty directory, a name leads to no directory. -/
private theorem walk_ne_directory_of_fresh {root : PathRoot} {ps : List String} {name : String}
    (hn : FilePath.IsNormal ⟨root, ps ++ [name]⟩) (hup : name ≠ "..") {outer : Location}
    (ho : t.walk true ⟨root, ps⟩ = .ok (.directory outer)) (hfresh : t.IsFresh outer) :
    t.walk true ⟨root, ps ++ [name]⟩ ≠ .ok (.directory d) := by
  intro hd
  have hmem : name ∈ ps ++ [name] := by simp
  have hname := hn name hmem
  have hpieces := FilePath.piecesOf_of_not_mem (hn.ne_empty hmem) hname.2
  -- the walk goes through the parent to the name
  have hne : FilePath.piecesOf name ≠ [] := by simp [hpieces]
  obtain ⟨m, hm⟩ := walk_beyond hne (faultOf?_of_walk hd) ho
  rw [hm true, hpieces] at hd
  have hdot : name ≠ "." := by
    rintro rfl
    simpa [FilePath.isIdle] using hname.1
  -- a name that is too long leads nowhere
  by_cases hlong : maxNameBytes < name.utf8ByteSize
  · rw [walkLinks_long hdot hup hlong] at hd
    simp at hd
  · -- the parent is empty, so nothing is called by the name
    have hnone := hfresh (name :: outer) (List.suffix_cons _ _) (by simp)
    rw [walkLinks_none ⟨hdot, hup, Nat.not_lt.mp hlong⟩ hnone, if_pos rfl] at hd
    simp at hd

/-- A directory that has been made for a path whose way up comes first is as it was, or there is
    nothing in it yet. -/
private theorem makeDirectoriesFrom_fresh (t : FileTree) (root : PathRoot) (room : Nat)
    {rev : List String} (hn : FilePath.IsNormal ⟨root, rev.reverse⟩)
    (hc : FilePath.ClimbsFirst ⟨root, rev.reverse⟩)
    (h : t.makeDirectoriesFrom root room rev = (.ok (), t'))
    (hd : t'.walk true ⟨root, rev.reverse⟩ = .ok (.directory d)) :
    t' = t ∨ t'.IsFresh d := by
  induction room generalizing rev t' d with
  | zero =>
    cases rev with
    | nil => exact .inl (Prod.ext_iff.mp h).2.symm
    | cons name outer => exact nomatch (Prod.ext_iff.mp h).1
  | succ room ih =>
    cases rev with
    | nil => exact .inl (Prod.ext_iff.mp h).2.symm
    | cons name outer =>
      simp only [makeDirectoriesFrom] at h
      split at h
      · -- it has been made just now
        rename_i made hm
        obtain rfl := (Prod.ext_iff.mp h).2
        exact .inr (makeDirectory_fresh hm hd)
      · -- its parent was missing
        rename_i hm
        split at h
        · exact nomatch (Prod.ext_iff.mp h).1
        · rename_i grown hg
          split at h
          · rename_i made hm'
            obtain rfl := (Prod.ext_iff.mp h).2
            exact .inr (makeDirectory_fresh hm' hd)
          · split at h
            · -- the directory would be there although its parent has only been made now
              obtain rfl := (Prod.ext_iff.mp h).2
              have hmissing : t.walk false ⟨root, (name :: outer).reverse⟩ = .error .missing := by
                rcases makeDirectory_eq_error hm with hw | ⟨hw, -⟩
                · exact hw
                · exact nomatch hw
              rw [List.reverse_cons] at hn hc hd hmissing
              have hup := ne_up_of_walk_missing hn hc hmissing
              have hmem : name ∈ outer.reverse ++ [name] := by simp
              have hpieces : FilePath.piecesOf name ≠ [] := by
                rw [FilePath.piecesOf_of_not_mem (hn.ne_empty hmem) (hn name hmem).2]
                -- the parent is on the way, so it is known to be the old one or a fresh one
                simp
              obtain ⟨o, ho⟩ := directory_of_walk_beyond hpieces hd
              have hn' : FilePath.IsNormal ⟨root, outer.reverse⟩ := fun part hpart =>
                hn part (List.mem_append_left _ hpart)
              rcases ih hn' (List.pairwise_append.mp hc).1 hg ho with rfl | hfresh
              · -- the parent was there before, and the directory was missing
                rw [walk_true_of_false (by simp [hmissing]), hmissing] at hd
                exact nomatch hd
              · -- a fresh parent has no directory in it
                exact absurd hd (walk_ne_directory_of_fresh hn hup ho hfresh)
            · exact nomatch (Prod.ext_iff.mp h).1
      · -- nothing was missing, so nothing has been made
        split at h
        · exact .inl (Prod.ext_iff.mp h).2.symm
        · exact nomatch (Prod.ext_iff.mp h).1

/-- A directory that has been made for a path whose way up comes first is as it was, or there is
    nothing in it yet. -/
theorem makeDirectories_fresh {p : NormalPath} (hc : p.ClimbsFirst)
    (h : t.makeDirectories p = (.ok (), t')) (hd : t'.walk true p = .ok (.directory d)) :
    t' = t ∨ t'.IsFresh d := by
  have hrev : (⟨p.root, p.parts.reverse.reverse⟩ : FilePath) = p := by rw [List.reverse_reverse]
  have hn := p.normal
  rw [← hrev] at hn hc hd
  exact makeDirectoriesFrom_fresh t p.root maxMissing hn hc h hd

/-- A path without null characters does not fail for one when its directories are made. -/
private theorem fault_of_makeDirectoriesFrom {root : PathRoot} {room : Nat} {rev : List String}
    (hf : faultOf? ⟨root, rev.reverse⟩ = none) {fault : Fault}
    (h : (t.makeDirectoriesFrom root room rev).1 = .error fault) : fault ≠ .nullCharacter := by
  -- a single directory fails for what a walk fails for, or because it is there
  have hone : ∀ {u : FileTree} {q : FilePath} {cause : Fault}, faultOf? q = none →
      u.makeDirectory q = .error cause → cause ≠ .nullCharacter := by
    intro u q cause hq hm
    rcases makeDirectory_eq_error hm with hw | ⟨rfl, -⟩
    · have := fault_of_walk hq hw
      rintro rfl
      simp at this
    · exact nofun
  induction room generalizing rev with
  | zero =>
    cases rev with
    | nil => exact nomatch h
    | cons name outer =>
      rintro rfl
      exact nomatch h
  | succ room ih =>
    cases rev with
    | nil => exact nomatch h
    | cons name outer =>
      simp only [makeDirectoriesFrom] at h
      -- the first attempt, the parent and the second attempt each fail for their own reasons
      split at h
      · exact nomatch h
      · split at h
        · rename_i cause grown hg
          obtain rfl := Except.error.inj h
          have hf' : faultOf? ⟨root, outer.reverse⟩ = none := by
            rw [List.reverse_cons] at hf
            exact faultOf?_append hf
          exact ih hf' (by rw [hg])
        · split at h
          · exact nomatch h
          · rename_i cause hm
            split at h
            · exact nomatch h
            · obtain rfl := Except.error.inj h
              exact hone hf hm
      · -- the first attempt failed for something that the parent does not help with
        rename_i cause _ hm
        split at h
        · exact nomatch h
        · obtain rfl := Except.error.inj h
          exact hone hf hm

/-- A path without null characters does not fail for one when its directories are made. -/
theorem fault_of_makeDirectories (hf : faultOf? p = none) {fault : Fault}
    (h : (t.makeDirectories p).1 = .error fault) : fault ≠ .nullCharacter := by
  have hrev : faultOf? ⟨p.root, p.parts.reverse.reverse⟩ = none := by rwa [List.reverse_reverse]
  exact fault_of_makeDirectoriesFrom hrev h

end ScriptBindings.FileTree

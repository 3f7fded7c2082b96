import ScriptBindings.Proofs.MakingDirectories

/-!
# What one write does

A write ends in one of seven ways. `WriteOutcome` lists them with what is then known, so that a
property of writes is proved by going through its constructors.

## Key results

- `tempPath_eq_ok`: a temporary path lies beside its destination
- `tempPath_ne` / `tempPath_inj`: it differs from its destination, and from other temporary paths
- `writeBytes_outcome` / `write_outcome`: every write ends in one of the listed ways
- `save_eq_ok` / `save_eq_error`: saving makes directories and then writes one file
- `create_vacant`: a temporary file is written to where there is nothing
-/

namespace ScriptBindings

open FileTree

/-! ## Temporary paths -/

namespace Staging

variable {s s' : Staging} {p : NormalPath} {temp : FilePath}

/-- The path without its last part leads to the directory that the other one lies in. The last part
    is a single name. -/
def IsBeside (p temp : FilePath) : Prop :=
  ∃ part, temp = ⟨p.parent.root, p.parent.parts ++ [part]⟩ ∧ (FilePath.partsOf part).length = 1

/-- The temporary paths depend on the suffix only. -/
theorem tempPath_of_suffix (h : s'.suffix = s.suffix) (p : NormalPath) :
    s'.tempPath p = s.tempPath p := by
  unfold tempPath; rw [h]

/-- The bytes of a content depend on the encoding only. -/
theorem encode_of_encoding (h : s'.encoding = s.encoding) (content : String) :
    s'.encode content = s.encode content := by
  unfold encode; rw [h]

/-- The temporary path of a destination has the suffix behind its last part. -/
theorem tempPath_eq_ok (h : s.tempPath p = .ok temp) :
    ∃ suffix name, s.suffix = .text suffix ∧ p.parts = p.parent.parts ++ [name] ∧
      temp = ⟨p.root, p.parent.parts ++ [name ++ suffix]⟩ ∧
      (FilePath.partsOf (name ++ suffix)).length = 1 ∧
      (name ++ suffix).toList.getLast? ≠ some '/' := by
  simp only [tempPath] at h
  -- without a suffix there is no temporary path, and it must fit the name
  cases hs : s.suffix.requireText.mapError StagingError.notText with
  | error e => rw [hs] at h; exact nomatch h
  | ok suffix =>
    rw [hs] at h
    simp only [bind, Except.bind] at h
    split at h
    · rename_i temp' htemp
      obtain rfl := Except.ok.inj h
      obtain ⟨name, hparts, rfl, hone, hlast⟩ := FilePath.withSuffix?_eq_some htemp
      refine ⟨suffix, name, ?_, hparts, rfl, hone, hlast⟩
      unfold Json.requireText at hs
      split at hs
      · rename_i heq
        rw [heq, Except.ok.inj hs]
      · exact nomatch hs
    · exact nomatch h

/-- A suffix that is no empty text makes a temporary path differ from its destination. -/
theorem tempPath_ne (hs : s.suffix ≠ .text "") : s.tempPath p ≠ .ok p := by
  intro htemp
  obtain ⟨suffix, name, hsuffix, hparts, heq, -⟩ := tempPath_eq_ok htemp
  -- the last part would have the suffix behind it twice
  have hname : name ++ suffix = name := by
    have := congrArg FilePath.parts heq
    rw [hparts] at this
    simpa using this.symm
  have hempty : suffix = "" := by
    have := congrArg String.utf8ByteSize hname
    rw [String.utf8ByteSize_append] at this
    exact String.utf8ByteSize_eq_zero_iff.mp (by omega)
  exact hs (by rw [hsuffix, hempty])

/-- Destinations with the same temporary path are the same. -/
theorem tempPath_inj {q : NormalPath} (hp : s.tempPath p = .ok temp)
    (hq : s.tempPath q = .ok temp) : p = q := by
  -- both paths are read from the same temporary path, the suffix included
  obtain ⟨suffix, name, hs, hparts, rfl, -⟩ := tempPath_eq_ok hp
  obtain ⟨suffix', name', hs', hparts', heq, -⟩ := tempPath_eq_ok hq
  obtain rfl : suffix = suffix' := by
    rw [hs] at hs'
    simpa using hs'
  obtain ⟨hroot, htail⟩ := FilePath.mk.inj heq
  obtain ⟨hparent, hlast⟩ := List.append_inj' htail rfl
  -- the suffix is the same, so the names before it are
  have hname : name = name' := by
    have := congrArg String.toList (List.cons.inj hlast).1
    rw [String.toList_append, String.toList_append] at this
    exact String.toList_inj.mp (List.append_cancel_right this)
  have hsame : p.parts = q.parts := by rw [hparts, hparts', hparent, hname]
  exact NormalPath.ext (congrArg₂ FilePath.mk hroot hsame)

theorem isBeside_of_tempPath (h : s.tempPath p = .ok temp) : IsBeside p temp := by
  obtain ⟨suffix, name, -, -, htemp, hone, -⟩ := tempPath_eq_ok h
  exact ⟨name ++ suffix, htemp, hone⟩

end Staging

/-! ## Saving a file -/

namespace FileTree

variable {t t' cleared grown : FileTree} {p temp : FilePath} {bytes : Bytes} {k : Location}

/-- What can be read can be taken out. -/
theorem without_of_contentOf {held : Option Bytes} (h : t.contentOf temp = .ok held) :
    ∃ t', t.without temp = .ok t' := by
  cases hw : t.without temp with
  | ok t' => exact ⟨t', rfl⟩
  | error e =>
    exfalso
    have hread := contentOf_eq_ok h
    simp only [read_eq_ok, read_eq_missing] at hread
    -- neither reason is a link, so following the last link makes no difference
    rcases without_eq_error hw with ⟨k, hdir⟩ | ⟨fault, hne, hfault⟩
    · rw [walk_true_of_false (by simp [hdir]), hdir] at hread
      simp at hread
    · rw [walk_true_of_false (by simp [hfault]), hfault] at hread
      simp [hne] at hread

/-- A path whose entry could be taken out has nothing wrong with it. -/
theorem faultOf?_of_without (h : t.without temp = .ok cleared) : faultOf? temp = none := by
  -- what was taken out was there, or nothing was and the way may even end before it
  rcases without_eq_ok h with ⟨k, e, -, hw, -⟩ | ⟨-, hw | ⟨k, hw⟩⟩
  · exact faultOf?_of_walk hw
  · exact faultOf?_of_walk_missing hw
  · exact faultOf?_of_walk hw

/-- The directory around a path whose entry could be taken out has nothing wrong with it. -/
theorem faultOf?_parent_of_without (hb : Staging.IsBeside p temp)
    (h : t.without temp = .ok cleared) : faultOf? p.parent = none := by
  obtain ⟨part, rfl, -⟩ := hb
  exact faultOf?_append (faultOf?_of_without h)

/-- Taking out an entry changes that entry only, if any. -/
theorem lookup_without (h : t.without temp = .ok cleared) :
    cleared.here = t.here ∧
      ∀ k, cleared.lookup k = t.lookup k ∨
        (cleared.lookup k = none ∧ ∃ e, t.walk false temp = .ok (placeOf k e) ∧
          t.lookup k = some e ∧ e ≠ .directory) := by
  rcases without_eq_ok h with ⟨k, e, hne, hw, rfl⟩ | ⟨rfl, -⟩
  · -- the entry at the end of the walk is gone, and no other one changes
    refine ⟨here_remove, fun j => ?_⟩
    rw [lookup_remove_of_walk hw hne]
    by_cases hjk : j = k
    · subst hjk
      exact .inr ⟨if_pos rfl, e, hw, (entry_of_walk hw hne).1, hne⟩
    · exact .inl (if_neg hjk)
  · exact ⟨rfl, fun k => .inl rfl⟩

/-- Saving makes the directories that lead to the file, and then writes it. -/
theorem save_eq_ok (h : t.save p temp bytes = (.ok (), t')) :
    ∃ grown, t.makeDirectories p.parent = (.ok (), grown) ∧ grown.create temp bytes = .ok t' := by
  -- a failure of the directories or of the file would be the answer
  unfold save at h
  split at h
  · exact nomatch (Prod.mk.inj h).1
  · rename_i grown hm
    split at h
    · rename_i saved hc
      obtain rfl := (Prod.mk.inj h).2
      exact ⟨grown, hm, hc⟩
    · exact nomatch (Prod.mk.inj h).1

/-- If a file cannot be saved, the directories that have been made stay. -/
theorem save_eq_error {e : StagingError} (h : t.save p temp bytes = (.error e, t')) :
    t' = (t.makeDirectories p.parent).2 ∧ ∃ fault, e = .ofFault (.cannotSave temp) fault ∧
      ((t.makeDirectories p.parent).1 = .error fault ∨ t'.create temp bytes = .error fault) := by
  unfold save at h
  -- by which of the two failed
  split at h
  · rename_i fault grown hm
    obtain ⟨he, rfl⟩ := Prod.mk.inj h
    exact ⟨by rw [hm], fault, (Except.error.inj he).symm, .inl (by rw [hm])⟩
  · rename_i grown hm
    split at h
    · exact nomatch (Prod.mk.inj h).1
    · rename_i fault hc
      obtain ⟨he, rfl⟩ := Prod.mk.inj h
      exact ⟨by rw [hm], fault, (Except.error.inj he).symm, .inr hc⟩

/-- A file that has been saved has been found where there was no directory. -/
theorem walk_of_save (h : t.save p temp bytes = (.ok (), t')) :
    ∃ grown place, FileTree.walk grown true temp = .ok place ∧ ∀ d, place ≠ .directory d := by
  obtain ⟨grown, -, hc⟩ := save_eq_ok h
  -- a file was written where there was nothing or another file
  obtain ⟨k, hv | ⟨old, ho⟩, -⟩ := create_eq_ok.mp hc
  · exact ⟨grown, _, hv, nofun⟩
  · exact ⟨grown, _, ho, nofun⟩

/-- What was there before an entry was taken out leads to directories in the same way. -/
private theorem walk_parent_of_without {d : Location} {fl : Bool} {q : FilePath}
    (h : t.without temp = .ok cleared) (hd : cleared.walk fl q = .ok (.directory d)) :
    t.walk fl q = .ok (.directory d) := by
  obtain ⟨hhere, hlookup⟩ := lookup_without h
  have hkeep : ∀ k e, cleared.lookup k = some e → t.lookup k = some e := by
    intro k e he
    -- what is left was there before, and what was taken out is not left
    rcases hlookup k with heq | ⟨hnone, -⟩
    · rw [← heq, he]
    · rw [hnone] at he; exact nomatch he
  exact walk_directory_mono ⟨fun k => hkeep k _, fun k target => hkeep k _⟩ hhere.symm hd

/-- After an entry was taken out there is nothing in its place. -/
theorem lookup_none_of_without {root : PathRoot} {ps : List String} {part name : String}
    {d : Location} (hnamed : IsNamed part name) (hname : IsEntryName name)
    (h : t.without ⟨root, ps ++ [part]⟩ = .ok cleared)
    (hd : cleared.walk true ⟨root, ps⟩ = .ok (.directory d)) :
    cleared.lookup (name :: d) = none := by
  have hf := faultOf?_of_without h
  have hparent := walk_parent_of_without h hd
  cases he : t.lookup (name :: d) with
  | none =>
    -- nothing was there before, and taking out adds nothing
    rcases (lookup_without h).2 (name :: d) with heq | ⟨hnone, -⟩
    · rw [heq, he]
    · exact hnone
  | some e =>
    -- what was there is what the walk found, so it is the entry that was taken out
    have hw := walk_named_entry hnamed hname hf hparent he
    rcases without_eq_ok h with ⟨k, e', hne, hw', rfl⟩ | ⟨-, hw' | ⟨k, hw'⟩⟩
    · rw [hw] at hw'
      obtain ⟨rfl, rfl⟩ : name :: d = k ∧ e = e' := by
        cases e <;> cases e' <;> simp_all [placeOf]
      rw [lookup_remove_of_walk hw hne, if_pos rfl]
    · rw [hw] at hw'
      simp at hw'
    · rw [hw] at hw'
      cases e <;> simp [placeOf] at hw'

/-- A temporary file is written to where there is nothing: what lay there has been taken out, and in
    directories that have just been made there is nothing. -/
theorem create_vacant {p : NormalPath} (hb : Staging.IsBeside p temp) (hc : p.parent.ClimbsFirst)
    (hw : t.without temp = .ok cleared)
    (hm : cleared.makeDirectories p.parent = (.ok (), grown))
    (h : grown.create temp bytes = .ok t') :
    ∃ k, grown.walk false temp = .ok (.vacant k) ∧ t' = grown.put k (.file bytes) := by
  obtain ⟨part, rfl, hone⟩ := hb
  obtain ⟨k, hplace, rfl⟩ := create_eq_ok.mp h
  -- the file was written where there was nothing or another one
  have hwalk : ∃ place, grown.walk true ⟨p.parent.root, p.parent.parts ++ [part]⟩ = .ok place ∧
      ∀ d, place ≠ .directory d := by
    rcases hplace with hv | ⟨old, ho⟩
    · exact ⟨_, hv, nofun⟩
    · exact ⟨_, ho, nofun⟩
  obtain ⟨place, hwalk, hnot⟩ := hwalk
  have hf := faultOf?_of_walk hwalk
  obtain ⟨name, hnamed, hname⟩ := isNamed_of_walk hone hwalk hnot
  obtain ⟨d, hd⟩ := directory_of_walk_beyond hnamed.piecesOf_ne_nil hwalk
  -- either no directory was made, or the last one is empty
  have hnone : grown.lookup (name :: d) = none := by
    rcases makeDirectories_fresh (p := p.directory) hc hm hd with rfl | hfresh
    · exact lookup_none_of_without hnamed hname hw hd
    · exact hfresh _ (List.suffix_cons _ _) (by simp)
  have hvacant : grown.walk true ⟨p.parent.root, p.parent.parts ++ [part]⟩ =
      .ok (.vacant (name :: d)) := walk_named_vacant hnamed hname hf hd hnone
  -- both walks are along the same path, so they end at the same place
  obtain rfl : k = name :: d := by
    rcases hplace with hv | ⟨old, ho⟩
    · rw [hvacant] at hv
      simpa using hv.symm
    · rw [hvacant] at ho
      exact nomatch ho
  exact ⟨_, walk_named_vacant hnamed hname hf hd hnone, rfl⟩

end FileTree

/-! ## Ways in which a write ends -/

namespace Workspace

variable {w w' : Workspace} {p : NormalPath} {temp : FilePath} {bytes : Bytes}
  {r : Except StagingError Bool}

/-- The ways in which a write ends, with what it answers and the workspace after it. -/
inductive WriteOutcome (w : Workspace) (p : NormalPath) (temp : FilePath) (bytes : Bytes) :
    Except StagingError Bool → Workspace → Prop
  /-- The staged file or the destination cannot be read. -/
  | unread {e : StagingError} (h : w.tree.contentOf temp = .error e ∨
      w.tree.contentOf p = .error e) : WriteOutcome w p temp bytes (.error e) w
  /-- The destination is staged with these bytes. -/
  | staged (hp : w.staging.pending.contains p = true)
      (ht : w.tree.contentOf temp = .ok (some bytes)) : WriteOutcome w p temp bytes (.ok false) w
  /-- The destination has these bytes and is not staged. -/
  | held (hp : w.staging.pending.contains p = false)
      (hd : w.tree.contentOf p = .ok (some bytes)) : WriteOutcome w p temp bytes (.ok false) w
  /-- The destination has these bytes and is no longer staged with others. -/
  | reverted {tree : FileTree} (hp : w.staging.pending.contains p = true)
      (hd : w.tree.contentOf p = .ok (some bytes)) (hw : w.tree.without temp = .ok tree) :
      WriteOutcome w p temp bytes (.ok false) { w.unstage p with tree }
  /-- What lies at the temporary path cannot be taken out. -/
  | uncleared {e : StagingError} (hw : w.tree.without temp = .error e) :
      WriteOutcome w p temp bytes (.error e) w
  /-- What lay at the temporary path is taken out, but the file cannot be saved. -/
  | unsaved {e : StagingError} {cleared tree : FileTree} (hw : w.tree.without temp = .ok cleared)
      (hs : cleared.save p temp bytes = (.error e, tree)) :
      WriteOutcome w p temp bytes (.error e) { w with tree }
  /-- The bytes differ from those of the destination, and of its staged file, and are staged. -/
  | saved {held : Option Bytes} {cleared tree : FileTree}
      (ht : w.staging.pending.contains p = true →
        ∃ staged, w.tree.contentOf temp = .ok staged ∧ staged ≠ some bytes)
      (hd : w.tree.contentOf p = .ok held) (hne : held ≠ some bytes)
      (hw : w.tree.without temp = .ok cleared)
      (hs : cleared.save p temp bytes = (.ok (), tree)) :
      WriteOutcome w p temp bytes (.ok true)
        { staging := { w.staging with pending := w.staging.pending.insert p temp }, tree }

/-- The settings of a writer stay, however a write ends. -/
theorem WriteOutcome.settings (h : WriteOutcome w p temp bytes r w') :
    w'.staging.suffix = w.staging.suffix ∧ w'.staging.encoding = w.staging.encoding := by
  cases h <;> exact ⟨rfl, rfl⟩

/-- Whether a destination is staged with a content is known from its staged file. -/
private theorem isStaged_eq_ok {b : Bool} (h : w.isStaged p temp bytes = .ok b) :
    (w.staging.pending.contains p = true ∧ ∃ held, w.tree.contentOf temp = .ok held ∧
      b = (held == some bytes)) ∨ (w.staging.pending.contains p = false ∧ b = false) := by
  unfold isStaged at h
  -- a destination that is staged is compared with its staged file
  split at h
  · rename_i hp
    cases hc : w.tree.contentOf temp with
    | error e => rw [hc] at h; exact nomatch h
    | ok held =>
      -- what is not staged is not staged with any bytes
      rw [hc] at h
      exact .inl ⟨hp, held, rfl, (Except.ok.inj h).symm⟩
  · rename_i hp
    exact .inr ⟨by simpa using hp, (Except.ok.inj h).symm⟩

/-- A staged file that cannot be read. -/
private theorem isStaged_eq_error {e : StagingError} (h : w.isStaged p temp bytes = .error e) :
    w.tree.contentOf temp = .error e := by
  unfold isStaged at h
  split at h
  · cases hc : w.tree.contentOf temp with
    | error e' =>
      rw [hc] at h
      exact congrArg _ (Except.error.inj h)
    | ok held => rw [hc] at h; exact nomatch h
  · exact nomatch h

/-- Every writing of bytes ends in one of the listed ways. -/
theorem writeBytes_outcome (h : w.writeBytes p temp bytes = (r, w')) :
    WriteOutcome w p temp bytes r w' := by
  unfold writeBytes at h
  -- the cases are those of the program: the staged file, the destination, and then the tree
  split at h
  · rename_i e hs
    obtain ⟨rfl, rfl⟩ := Prod.mk.inj h
    exact .unread (.inl (isStaged_eq_error hs))
  · rename_i hs
    -- these bytes are staged already
    obtain ⟨rfl, rfl⟩ := Prod.mk.inj h
    rcases isStaged_eq_ok hs with ⟨hp, held, hc, hb⟩ | ⟨-, hb⟩
    · exact .staged hp (by rw [hc, beq_iff_eq.mp hb.symm])
    · exact nomatch hb
  · rename_i hs
    -- they are not, so the destination is read
    split at h
    · rename_i e hd
      obtain ⟨rfl, rfl⟩ := Prod.mk.inj h
      exact .unread (.inr hd)
    · rename_i held hd
      split at h
      · rename_i heq
        -- it has these bytes, so what is staged for it is dropped
        subst heq
        unfold revert at h
        split at h
        · -- the staged file has been read, so it can be taken out
          rename_i hp
          have hread : ∃ held, w.tree.contentOf temp = .ok held := by
            rcases isStaged_eq_ok hs with ⟨-, held, hc, -⟩ | ⟨hp', -⟩
            · exact ⟨held, hc⟩
            · rw [hp] at hp'; exact nomatch hp'
          obtain ⟨tree, hw⟩ := without_of_contentOf hread.choose_spec
          have hw' : (w.unstage p).tree.without temp = .ok tree := hw
          simp only [hw'] at h
          obtain ⟨rfl, rfl⟩ := Prod.mk.inj h
          exact .reverted hp hd hw
        · rename_i hp
          -- there is nothing to drop
          obtain ⟨rfl, rfl⟩ := Prod.mk.inj h
          exact .held (by simpa using hp) hd
      · -- the bytes are new, and a staged file has other ones
        rename_i hne
        have ht : w.staging.pending.contains p = true →
            ∃ staged, w.tree.contentOf temp = .ok staged ∧ staged ≠ some bytes := by
          intro hp
          rcases isStaged_eq_ok hs with ⟨-, staged, hc, hb⟩ | ⟨hp', -⟩
          · exact ⟨staged, hc, beq_eq_false_iff_ne.mp hb.symm⟩
          · rw [hp] at hp'; exact nomatch hp'
        unfold stage at h
        -- the temporary path is cleared, and then the file is saved
        split at h
        · rename_i e hw
          obtain ⟨rfl, rfl⟩ := Prod.mk.inj h
          exact .uncleared hw
        · rename_i cleared hw
          split at h
          · rename_i e tree hsave
            obtain ⟨rfl, rfl⟩ := Prod.mk.inj h
            exact .unsaved hw hsave
          · rename_i tree hsave
            obtain ⟨rfl, rfl⟩ := Prod.mk.inj h
            exact .saved ht hd hne hw hsave

/-- A write fails before it looks at any file, or ends in one of the listed ways. -/
theorem write_outcome {content : String} (h : w.write p content = (r, w')) :
    (w' = w ∧ ∃ e, r = .error e ∧
        (w.staging.tempPath p = .error e ∨ w.staging.encode content = .error e)) ∨
      ∃ temp bytes, w.staging.tempPath p = .ok temp ∧ w.staging.encode content = .ok bytes ∧
        WriteOutcome w p temp bytes r w' := by
  unfold write at h
  -- without a temporary path or bytes there is nothing to do
  split at h
  · rename_i e htemp
    obtain ⟨rfl, rfl⟩ := Prod.mk.inj h
    exact .inl ⟨rfl, e, rfl, .inl htemp⟩
  · rename_i temp e _ henc
    obtain ⟨rfl, rfl⟩ := Prod.mk.inj h
    exact .inl ⟨rfl, e, rfl, .inr henc⟩
  · rename_i temp bytes htemp henc
    exact .inr ⟨temp, bytes, htemp, henc, writeBytes_outcome h⟩

end Workspace

end ScriptBindings

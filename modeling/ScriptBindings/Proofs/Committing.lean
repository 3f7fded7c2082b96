import ScriptBindings.Proofs.StagingSteps

/-!
# What a commit does

A commit renames staged files in order until one cannot be renamed. What has been renamed is no
longer staged; the rest stays staged, in the same order. In the states that a writer can reach, all
that a commit can report is a file that cannot be replaced.

## Key results

- `commit_splits`: a commit splits the staged files in those renamed and those that stay
- `Reachable.sound`: in every state that a writer can reach, what is staged has been found
- `StagingError.ofFault_rename`: a commit that fails names a destination
-/

namespace ScriptBindings

open FileTree

/-- Renames files one after the other: pairs of a destination and a temporary file. -/
def FileTree.renameAll (t : FileTree) (es : List (NormalPath × FilePath)) : Except Fault FileTree :=
  es.foldlM (fun t e => t.rename e.2 e.1) t

namespace Workspace

variable {w w' : Workspace} {p : NormalPath} {temp : FilePath}
  {done rest : List (NormalPath × FilePath)}

/-- The first staged files have been renamed, and the others are still staged. -/
structure Split (w w' : Workspace) (done rest : List (NormalPath × FilePath)) : Prop where
  entries : w.staging.pending.entries = done ++ rest
  renamed : w.tree.renameAll done = .ok w'.tree
  pending : w'.staging.pending.entries = rest
  suffix : w'.staging.suffix = w.staging.suffix
  encoding : w'.staging.encoding = w.staging.encoding

/-- Renaming the first staged file, and then some of the others. -/
private theorem Split.cons {tree : FileTree}
    (hr : w.tree.rename temp p = .ok tree)
    (he : w.staging.pending.entries = (p, temp) :: (done ++ rest))
    (h : Split { w.unstage p with tree } w' done rest) : Split w w' ((p, temp) :: done) rest := by
  -- the renaming of the head comes before the others, and both are part of one fold
  refine ⟨by rw [he, List.cons_append], ?_, h.pending, h.suffix, h.encoding⟩
  have := h.renamed
  simp only [renameAll, List.foldlM_cons, hr, bind, Except.bind] at this ⊢
  exact this

/-- A commit of the staged files renames the first ones: all of them, or up to one that cannot be
    renamed. -/
private theorem commitAll_splits (w : Workspace) {es : List (NormalPath × FilePath)}
    (he : w.staging.pending.entries = es) :
    ∃ done rest, Split w (w.commitAll es).2 done rest ∧
      ((rest = [] ∧ (w.commitAll es).1 = .ok done.length) ∨
        ∃ p temp later fault, rest = (p, temp) :: later ∧
          (w.commitAll es).1 = .error (.ofFault (.cannotReplace p) fault) ∧
          (w.commitAll es).2.tree.rename temp p = .error fault) := by
  -- the workspace is left general, since each renaming goes on from another one
  induction es generalizing w with
  | nil => exact ⟨[], [], ⟨he, rfl, he, rfl, rfl⟩, .inl ⟨rfl, rfl⟩⟩
  | cons e es ih =>
    obtain ⟨p, temp⟩ := e
    simp only [commitAll]
    cases hr : w.tree.rename temp p with
    | error fault =>
      -- the commit stops here, and the whole list stays
      exact ⟨[], (p, temp) :: es, ⟨he, rfl, he, rfl, rfl⟩,
        .inr ⟨p, temp, es, fault, rfl, rfl, hr⟩⟩
    | ok tree =>
      -- what has been renamed is taken out of the head of the list
      have herase : ({ w.unstage p with tree } : Workspace).staging.pending.entries = es :=
        Table.entries_erase_head he
      obtain ⟨done, rest, hsplit, hend⟩ := ih _ herase
      have hes : es = done ++ rest := by rw [← herase]; exact hsplit.entries
      refine ⟨(p, temp) :: done, rest, hsplit.cons hr (by rw [he, hes]), ?_⟩
      rcases hend with ⟨hrest, hok⟩ | ⟨q, qtemp, later, fault, hrest, herr, hfault⟩
      · exact .inl ⟨hrest, by simp [hok, Except.map]⟩
      · exact .inr ⟨q, qtemp, later, fault, hrest, by simp [herr, Except.map], hfault⟩

/-- **What a commit does.** The staged files are split in those that have been renamed and those
    that stay. Either nothing stays, or the first that stays is the one that cannot be renamed. -/
theorem commit_splits (w : Workspace) :
    ∃ done rest, Split w w.commit.2 done rest ∧
      ((rest = [] ∧ w.commit.1 = .ok done.length) ∨
        ∃ p temp later fault, rest = (p, temp) :: later ∧
          w.commit.1 = .error (.ofFault (.cannotReplace p) fault) ∧
          w.commit.2.tree.rename temp p = .error fault) :=
  commitAll_splits w rfl

end Workspace

/-! ## States that a writer can reach -/

namespace Staging

variable {s s' : Staging} {p : NormalPath} {temp : FilePath}

/-- The states that a writer can reach, whatever the file tree is like when it takes a step. -/
inductive Reachable : Staging → Prop
  | create (encoding suffix : Json) : Reachable (.create encoding suffix)
  | write {s : Staging} (h : Reachable s) (t : FileTree) (p : NormalPath) (content : String) :
      Reachable (Workspace.write ⟨s, t⟩ p content).2.staging
  | commit {s : Staging} (h : Reachable s) (t : FileTree) :
      Reachable (Workspace.commit ⟨s, t⟩).2.staging

/-- What is staged has its temporary path, and both have been found once: nothing is wrong with
    the paths, and a file could be written to the temporary one. -/
def Sound (s : Staging) : Prop :=
  ∀ p temp, s.pending.get? p = some temp →
    s.tempPath p = .ok temp ∧ faultOf? p = none ∧
      ∃ t place, FileTree.walk t true temp = .ok place ∧ ∀ d, place ≠ .directory d

/-- What is staged stays sound when some of it is dropped. -/
theorem Sound.mono (h : s.Sound) (hs : s'.suffix = s.suffix)
    (hp : ∀ p temp, s'.pending.get? p = some temp → s.pending.get? p = some temp) : s'.Sound := by
  intro p temp hget
  rw [tempPath_of_suffix hs]
  exact h p temp (hp p temp hget)

/-- A path whose content is known has nothing wrong with it. -/
theorem faultOf?_of_contentOf {t : FileTree} {held : Option Bytes}
    (h : t.contentOf p = .ok held) : faultOf? p = none := by
  -- the file has been read or is missing, and in both cases a walk has gone along the path
  rcases contentOf_eq_ok h with ⟨content, -, hread⟩ | ⟨-, hread⟩
  · obtain ⟨k, hw⟩ := read_eq_ok.mp hread
    exact faultOf?_of_walk hw
  · rcases read_eq_missing.mp hread with hw | ⟨k, hw⟩
    · exact faultOf?_of_walk_missing hw
    · exact faultOf?_of_walk hw

/-- A write keeps what is staged sound. -/
private theorem sound_write {w w' : Workspace} {r : Except StagingError Bool} {content : String}
    (hs : w.staging.Sound) (h : w.write p content = (r, w')) : w'.staging.Sound := by
  rcases Workspace.write_outcome h with ⟨rfl, -⟩ | ⟨temp, bytes, htemp, -, hout⟩
  · exact hs
  cases hout with
  | unread _ => exact hs
  | staged _ _ => exact hs
  | held _ _ => exact hs
  | uncleared _ => exact hs
  | unsaved _ _ => exact hs
  | reverted _ _ _ =>
    -- a reverted write drops one staged file and adds none
    refine hs.mono rfl fun q qtemp hget => ?_
    simp only [Workspace.unstage, Table.get?_erase] at hget
    split at hget
    · simp at hget
    · exact hget
  | @saved held cleared tree _ hd _ _ hsave =>
    intro q qtemp hget
    simp only [Table.get?_insert] at hget
    split at hget
    · -- the new one has just been found
      rename_i hq
      subst hq
      obtain rfl := Option.some.inj hget
      exact ⟨htemp, faultOf?_of_contentOf hd, walk_of_save hsave⟩
    · exact hs q qtemp hget

/-- In every state that a writer can reach, what is staged has been found once. -/
theorem Reachable.sound (h : s.Reachable) : s.Sound := by
  induction h with
  | create encoding suffix => intro p temp hget; exact nomatch hget
  | write h t p content ih => exact sound_write ih rfl
  | @commit s h t ih =>
    obtain ⟨done, rest, hsplit, -⟩ := Workspace.commit_splits ⟨s, t⟩
    -- what stays is the end of the list, so all of it was staged before
    refine ih.mono hsplit.suffix fun p temp hget => ?_
    rw [Table.get?_eq_some] at hget ⊢
    rw [show s.pending.entries = done ++ rest from hsplit.entries]
    rw [hsplit.pending] at hget
    exact List.mem_append_right _ hget

/-- A path that has been found has nothing wrong with it. -/
theorem Sound.faultOf? (h : s.Sound) (hget : s.pending.get? p = some temp) :
    FileTree.faultOf? p = none ∧ FileTree.faultOf? temp = none := by
  obtain ⟨-, hp, t, place, hw, -⟩ := h p temp hget
  exact ⟨hp, faultOf?_of_walk hw⟩

end Staging

/-- A commit of what has been found fails, if it does, at a destination that cannot be replaced. -/
theorem StagingError.ofFault_rename {t : FileTree} {p : NormalPath} {temp : FilePath}
    {fault : Fault} (hp : faultOf? p = none) (ht : faultOf? temp = none)
    (h : t.rename temp p = .error fault) :
    StagingError.ofFault (.cannotReplace p) fault = .cannotReplace p := by
  -- a rename fails with neither of the faults that have an error of their own
  obtain ⟨hnull, hmissing⟩ := fault_of_rename ht hp h
  cases fault with
  | nullCharacter => exact absurd rfl hnull
  | tooManyMissing => exact absurd rfl hmissing
  | _ => rfl

end ScriptBindings

import ScriptBindings.Proofs.SeparateFiles

/-!
# Commits that are stopped

A commit that meets a file that cannot be replaced has done a part of its work, and a second one can
do the rest. What the two of them leave is what one undisturbed commit leaves.

## Key results

- `commit_stopped`: what a commit leaves alone, and what it has renamed
- `commit_ready`: where every staged file can be renamed, a commit renames them all
- `commit_resumes`: a commit splits the staged files, and a second one finishes them
-/

namespace ScriptBindings

open FileTree

namespace Staging

variable {s : Staging} {t : FileTree}

/-- The destinations of what is staged. -/
def destinations (s : Staging) : Set NormalPath :=
  { p | p ∈ s.pending.keys }

instance (s s' : Staging) (t : FileTree) : Decidable (Separate s t s'.destinations) :=
  inferInstanceAs (Decidable (Separate s t { p | p ∈ s'.pending.keys }))

/-- Where the destinations are apart, every staged file has a plain temporary path. -/
theorem Sound.pairs (hs : s.Sound) (h : Separate s t s.destinations) :
    ∀ e ∈ s.pending.entries, s.Pairs s.destinations e := by
  intro e he
  have hmem : e.1 ∈ s.destinations := List.mem_map_of_mem he
  -- what is staged has been found once, so its temporary path is plain
  obtain ⟨htemp, -, u, place, hw, hd⟩ := hs e.1 e.2 (Table.get?_eq_some.mpr he)
  exact ⟨hmem, htemp, tempPath_plain (h.plain e.1 hmem) htemp hw hd⟩

end Staging

namespace Workspace

variable {w w' : Workspace} {done rest : List (NormalPath × FilePath)} {bytes : NormalPath → Bytes}

/-- The temporary files that are there are regular files. -/
def TempsRegular (w : Workspace) : Prop :=
  ∀ e ∈ w.staging.pending.entries, ∀ entry, w.tree.lookup (w.tree.locate e.2) = some entry →
    ∃ content, entry = .file content

/-- Every staged file holds its bytes and can be renamed. -/
structure Ready (w : Workspace) (bytes : NormalPath → Bytes) : Prop where
  separate : Separate w.staging w.tree w.staging.destinations
  holds : ∀ e ∈ w.staging.pending.entries, w.tree.bytesAt e.2 = some (bytes e.1)
  renames : ∀ e ∈ w.staging.pending.entries, ∃ moved, w.tree.rename e.2 e.1 = .ok moved

/-- The staged files that have been renamed have gone to their destinations. -/
theorem Split.renamed_separate {ds : Set NormalPath} (h : Split w w' done rest)
    (hsep : Separate w.staging w.tree ds)
    (hpairs : ∀ e ∈ w.staging.pending.entries, w.staging.Pairs ds e) (hreg : w.TempsRegular) :
    Renamed w.tree w'.tree done := by
  have hdone : ∀ e ∈ done, e ∈ w.staging.pending.entries := fun e he =>
    h.entries ▸ List.mem_append_left _ he
  -- no destination is staged twice
  have hn : (done.map Prod.fst).Nodup := by
    have := w.staging.pending.nodup
    rw [h.entries, List.map_append] at this
    exact (List.nodup_append.mp this).1
  exact renameAll_separate hsep (fun e he => hpairs e (hdone e he)) hn
    (fun e he => hreg e (hdone e he)) h.renamed

/-- What has been renamed and what stays have different destinations. -/
theorem Split.ne (h : Split w w' done rest) {e f : NormalPath × FilePath} (he : e ∈ done)
    (hf : f ∈ rest) : e.1 ≠ f.1 := by
  -- a destination is staged once, with its part of the list
  have := w.staging.pending.nodup
  rw [h.entries, List.map_append] at this
  exact (List.nodup_append.mp this).2.2 _ (List.mem_map_of_mem he) _ (List.mem_map_of_mem hf)

/-- **What a commit leaves alone.** What stays staged is as it was before, the destinations as well
    as the temporary files. -/
theorem commit_stopped (hs : w.staging.Sound) (h : Split w w' done rest)
    (hsep : Separate w.staging w.tree w.staging.destinations) (hreg : w.TempsRegular) :
    ∀ e ∈ rest, w'.tree.lookup (w.tree.locate e.1) = w.tree.lookup (w.tree.locate e.1) ∧
      w'.tree.lookup (w.tree.locate e.2) = w.tree.lookup (w.tree.locate e.2) := by
  intro e he
  have hpairs := hs.pairs hsep
  have hr := h.renamed_separate hsep hpairs hreg
  rw [h.entries] at hpairs
  -- the pairs that have been renamed are apart from the one that stays
  have hapart := fun f (hf : f ∈ done) =>
    hsep.apart w.tree (hpairs e (List.mem_append_right _ he))
      (hpairs f (List.mem_append_left _ hf)) (h.ne hf he).symm
  exact ⟨hr.same _ fun f hf => (hapart f hf).1, hr.same _ fun f hf => (hapart f hf).2⟩

/-- **Where every staged file can be renamed, a commit renames them all.** -/
theorem commit_ready (hs : w.staging.Sound) (h : Ready w bytes) :
    w.commit.1 = .ok w.staging.pending.size ∧ w.commit.2.staging.pending.entries = [] ∧
      Renamed w.tree w.commit.2.tree w.staging.pending.entries := by
  have hpairs := hs.pairs h.separate
  have hfile : ∀ e ∈ w.staging.pending.entries,
      w.tree.lookup (w.tree.locate e.2) = some (.file (bytes e.1)) := fun e he =>
    bytesAt_eq_some.mp (h.holds e he)
  -- a temporary file holds bytes, so it is no directory and can be renamed
  have hcan : ∀ e ∈ w.staging.pending.entries, w.tree.CanRename e := fun e he =>
    ⟨⟨_, hfile e he⟩, h.renames e he⟩
  obtain ⟨t', ht'⟩ := renameAll_ok h.separate hpairs w.staging.pending.nodup hcan
  obtain ⟨done, rest, hsplit, ⟨rfl, hok⟩ | ⟨p, temp, later, fault, rfl, -, hfault⟩⟩ :=
    commit_splits w
  · -- all have been renamed, and nothing stays
    have hentries := hsplit.entries
    rw [List.append_nil] at hentries
    refine ⟨by rw [hok, Table.size, hentries], hsplit.pending, ?_⟩
    rw [hentries]
    refine hsplit.renamed_separate h.separate hpairs fun e he entry hentry => ⟨bytes e.1, ?_⟩
    -- the temporary files are regular, which `renamed_separate` asks for
    rw [hfile e he] at hentry
    exact (Option.some.inj hentry).symm
  · -- the file that could not be renamed is one of those that can
    have hrenamed := hsplit.renamed
    rw [hsplit.entries] at ht'
    simp only [renameAll, List.foldlM_append, List.foldlM_cons, bind, Except.bind] at ht' hrenamed
    rw [hrenamed] at ht'
    simp only [hfault] at ht'
    simp at ht'

/-- What has been renamed is found at its destination. -/
theorem bytesAt_of_renamed {t t' : FileTree} {es : List (NormalPath × FilePath)}
    (h : Renamed t t' es) (hb : ∀ e ∈ es, t.bytesAt e.2 = some (bytes e.1)) :
    ∀ e ∈ es, t'.bytesAt e.1 = some (bytes e.1) := by
  intro e he
  obtain ⟨content, hcontent, hfilled⟩ := h.filled e he
  -- the bytes of the temporary file have gone to the destination
  have := hb e he
  rw [bytesAt_eq_some, hcontent] at this
  rw [bytesAt_eq_some, locate_of_here h.here_eq, hfilled, this]

/-- Nothing is staged any more, and every destination holds its bytes. -/
structure Finished (w : Workspace) (es : List (NormalPath × FilePath))
    (bytes : NormalPath → Bytes) : Prop where
  pending : w.staging.pending.entries = []
  holds : ∀ e ∈ es, w.tree.bytesAt e.1 = some (bytes e.1)

/-- A second commit finishes what is still staged, and leaves alone what the first one has done. -/
private theorem finished_of_ready {again : Workspace} (hs : w.staging.Sound)
    (hs' : again.staging.Sound) (h : Split w w' done rest)
    (hsep : Separate w.staging w.tree w.staging.destinations) (hreg : w.TempsRegular)
    (hbytes : ∀ e ∈ done, w.tree.bytesAt e.2 = some (bytes e.1))
    (hagain : again.staging.pending.entries = rest)
    (hkeep : ∀ e ∈ done, again.tree.bytesAt e.1 = w'.tree.bytesAt e.1)
    (hready : Ready again bytes) :
    again.commit.1 = .ok rest.length ∧ Finished again.commit.2 w.staging.pending.entries bytes := by
  obtain ⟨hok, hnone, hr⟩ := commit_ready hs' hready
  have hholds := hready.holds
  rw [hagain] at hr hholds
  refine ⟨by rw [hok, Table.size, hagain], hnone, fun e he => ?_⟩
  have hpairs := hs.pairs hsep
  have hrenamed := h.renamed_separate hsep hpairs hreg
  rw [h.entries] at he hpairs
  rcases List.mem_append.mp he with he | he
  · -- the second commit does not touch what the first one has done
    have hapart := fun f (hf : f ∈ rest) =>
      (hsep.apart again.tree (hpairs e (List.mem_append_left _ he))
        (hpairs f (List.mem_append_right _ hf)) (h.ne he hf)).1
    rw [bytesAt_congr hr.here_eq (hr.same _ hapart), hkeep e he]
    exact bytesAt_of_renamed hrenamed hbytes e he
  · -- what stays is renamed by the second commit
    exact bytesAt_of_renamed hr hholds e he

/-- **Commits can be resumed.** In every state that a writer can reach, and in every tree, a commit
    renames the first staged files and keeps the others staged. It reports how many there were, or
    the first destination that could not be replaced.

    Where the destinations are apart and the temporary files are regular files, what stays is as it
    was before. When the rest has been repaired, so that every temporary file holds its bytes and
    can be renamed, a second commit finishes: the destinations hold what they hold after one
    undisturbed commit. -/
theorem commit_resumes (hs : w.staging.Reachable) :
    ∃ done rest, Split w w.commit.2 done rest ∧
      ((rest = [] ∧ w.commit.1 = .ok done.length) ∨
        ∃ p temp later fault, rest = (p, temp) :: later ∧ w.commit.1 = .error (.cannotReplace p) ∧
          w.commit.2.tree.rename temp p = .error fault) ∧
      (Separate w.staging w.tree w.staging.destinations → w.TempsRegular →
        (∀ e ∈ rest,
          w.commit.2.tree.lookup (w.tree.locate e.1) = w.tree.lookup (w.tree.locate e.1) ∧
          w.commit.2.tree.lookup (w.tree.locate e.2) = w.tree.lookup (w.tree.locate e.2)) ∧
        ∀ (repaired : FileTree) (bytes : NormalPath → Bytes),
          (∀ e ∈ done, w.tree.bytesAt e.2 = some (bytes e.1)) →
          (∀ e ∈ done, repaired.bytesAt e.1 = w.commit.2.tree.bytesAt e.1) →
          Ready ⟨w.commit.2.staging, repaired⟩ bytes →
          (commit ⟨w.commit.2.staging, repaired⟩).1 = .ok rest.length ∧
            Finished (commit ⟨w.commit.2.staging, repaired⟩).2 w.staging.pending.entries bytes) ∧
      ∀ (undisturbed : FileTree) (bytes : NormalPath → Bytes),
        Ready ⟨w.staging, undisturbed⟩ bytes →
        (commit ⟨w.staging, undisturbed⟩).1 = .ok w.staging.pending.size ∧
          Finished (commit ⟨w.staging, undisturbed⟩).2 w.staging.pending.entries bytes := by
  have hsound := hs.sound
  have hsound' : w.commit.2.staging.Sound := (hs.commit w.tree).sound
  obtain ⟨done, rest, hsplit, hend⟩ := commit_splits w
  refine ⟨done, rest, hsplit, ?_, fun hsep hreg => ⟨commit_stopped hsound hsplit hsep hreg,
    fun repaired bytes hbytes hkeep hready => ?_⟩, fun undisturbed bytes hready => ?_⟩
  · rcases hend with h | ⟨p, temp, later, fault, hrest, herr, hfault⟩
    · exact .inl h
    · -- what could not be renamed was staged, so its paths have been found once
      have hget : w.staging.pending.get? p = some temp := by
        rw [Table.get?_eq_some, hsplit.entries, hrest]
        simp
      obtain ⟨hp, ht⟩ := hsound.faultOf? hget
      rw [StagingError.ofFault_rename hp ht hfault] at herr
      exact .inr ⟨p, temp, later, fault, hrest, herr, hfault⟩
  · -- what stays is staged as it was, so the second commit begins in a sound state too
    exact finished_of_ready hsound hsound' hsplit hsep hreg hbytes hsplit.pending hkeep hready
  · -- an undisturbed commit begins with all that is staged
    obtain ⟨hok, hnone, hr⟩ := commit_ready (w := ⟨w.staging, undisturbed⟩) hsound hready
    exact ⟨hok, hnone, bytesAt_of_renamed hr hready.holds⟩

/-- A workspace where `c` and `d` have been staged, and a directory has got in the way of `d`. -/
def blocked : Workspace where
  staging :=
    { encoding := .text "utf-8"
      suffix := .text ".tmp"
      pending := ⟨[(NormalPath.ofPart "c", ⟨.relative, ["c.tmp"]⟩),
        (.ofPart "d", ⟨.relative, ["d.tmp"]⟩)], by decide⟩ }
  tree := ⟨[("work", .directory
    [("c.tmp", .file [120]), ("d.tmp", .file [121]), ("d", .directory [])])], ["work"]⟩

/-- The tree after a commit of `blocked`, without the directory. -/
def unblocked : FileTree :=
  ⟨[("work", .directory [("c", .file [120]), ("d.tmp", .file [121])])], ["work"]⟩

/-- The bytes that have been staged for `c` and `d`. -/
def stagedBytes (p : NormalPath) : Bytes :=
  if p = .ofPart "c" then [120] else [121]

private theorem ready_unblocked : Ready ⟨blocked.commit.2.staging, unblocked⟩ stagedBytes := by
  have hentry : ∀ e ∈ blocked.commit.2.staging.pending.entries,
      e = (.ofPart "d", ⟨.relative, ["d.tmp"]⟩) := by
    intro e he
    exact List.mem_singleton.mp
      (show e ∈ [(NormalPath.ofPart "d", ⟨.relative, ["d.tmp"]⟩)] from he)
  refine ⟨by decide, fun e he => ?_, fun e he => ?_⟩
  · obtain rfl := hentry e he
    rfl
  · obtain rfl := hentry e he
    exact ⟨_, rfl⟩

/-- A commit of `blocked` replaces `c` and stops at `d`. When the directory is gone, a second one
    replaces `d`. -/
theorem commit_resumes_blocked :
    blocked.staging.Reachable ∧
      blocked.commit.1 = .error (.cannotReplace (NormalPath.ofPart "d")) ∧
      (commit ⟨blocked.commit.2.staging, unblocked⟩).1 = .ok 1 ∧
      Finished (commit ⟨blocked.commit.2.staging, unblocked⟩).2 blocked.staging.pending.entries
        stagedBytes := by
  have hs : blocked.staging.Reachable := by
    have hcreate := Staging.Reachable.create (.text "utf-8") (.text ".tmp")
    have hwrites := (hcreate.write (.emptyAt []) (.ofPart "c") "x").write (.emptyAt [])
      (.ofPart "d") "y"
    exact hwrites
  have hentries : blocked.staging.pending.entries =
      [(.ofPart "c", ⟨.relative, ["c.tmp"]⟩), (.ofPart "d", ⟨.relative, ["d.tmp"]⟩)] := rfl
  have hreg : blocked.TempsRegular := by
    intro e he entry hentry
    rw [hentries] at he
    rcases List.mem_pair.mp he with rfl | rfl <;> exact ⟨_, (Option.some.inj hentry).symm⟩
  obtain ⟨done, rest, hsplit, -, hresume, -⟩ := commit_resumes hs
  obtain rfl : rest = [(NormalPath.ofPart "d", ⟨.relative, ["d.tmp"]⟩)] := hsplit.pending.symm
  obtain rfl : done = [(NormalPath.ofPart "c", ⟨.relative, ["c.tmp"]⟩)] := by
    have := hsplit.entries
    rw [hentries] at this
    exact (List.append_cancel_right this).symm
  obtain ⟨-, hfinish⟩ := hresume (by decide) hreg
  refine ⟨hs, by rfl, hfinish unblocked stagedBytes (fun e he => ?_) (fun e he => ?_)
    ready_unblocked⟩
  · obtain rfl := List.mem_singleton.mp he
    rfl
  · obtain rfl := List.mem_singleton.mp he
    rfl

end Workspace

end ScriptBindings

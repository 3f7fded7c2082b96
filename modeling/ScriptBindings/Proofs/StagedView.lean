import ScriptBindings.Proofs.CommitResume
import ScriptBindings.Proofs.Traversals
import ScriptBindings.Proofs.WalkablePaths

/-!
# What a writer shows

A writer shows each destination with the content that it is to have: the staged one, or else the one
on disk. A write changes what is shown and leaves the disk alone, and a commit brings the disk to
what is shown. So a writer is a plain map laid over the files.

## Key results

- `write_change`: a write that succeeds changes a writer in one of three ways
- `write_consistent`: what a write changes
- `commit_consistent`: what a commit changes
- `performAll_overlay`: in every state that is reached, the writer is such a map
-/

namespace ScriptBindings

open FileTree

namespace Workspace

variable {w w' : Workspace} {ds : Set NormalPath} {p q : NormalPath} {temp : FilePath}
  {bytes : Bytes}

/-- The bytes of the file at a destination. -/
def disk (w : Workspace) (p : NormalPath) : Option Bytes :=
  w.tree.bytesAt p

/-- The bytes that a destination is to have: those of its staged file, if there is one. -/
def view (w : Workspace) (p : NormalPath) : Option Bytes :=
  match w.staging.pending.get? p with
  | some temp => w.tree.bytesAt temp
  | none => w.disk p

theorem view_of_staged (h : w.staging.pending.get? p = some temp) :
    w.view p = w.tree.bytesAt temp := by
  rw [view, h]

theorem view_of_not_staged (h : w.staging.pending.get? p = none) : w.view p = w.disk p := by
  rw [view, h]

/-- What holds between the steps of a writer: the destinations are apart, and every staged file is
    there and differs from its destination. -/
structure Consistent (w : Workspace) (ds : Set NormalPath) : Prop where
  suffix : w.staging.suffix ≠ .text ""
  separate : Separate w.staging w.tree ds
  pairs : ∀ p temp, w.staging.pending.get? p = some temp → w.staging.Pairs ds (p, temp)
  staged : ∀ p temp, w.staging.pending.get? p = some temp →
    ∃ bytes, w.tree.bytesAt temp = some bytes ∧ w.disk p ≠ some bytes

/-- A destination is staged if it is to have other bytes than it has. -/
theorem Consistent.contains_iff (h : Consistent w ds) (p : NormalPath) :
    w.staging.pending.contains p = true ↔ w.view p ≠ w.disk p := by
  unfold Table.contains
  cases hp : w.staging.pending.get? p with
  | none => simp [view_of_not_staged hp]
  | some temp =>
    -- a staged file differs from its destination, which `staged` says
    obtain ⟨bytes, hbytes, hne⟩ := h.staged p temp hp
    rw [view_of_staged hp, hbytes]
    simpa using hne.symm

/-! ## One write -/

/-- What a write changes, and what it answers. -/
structure Wrote (w w' : Workspace) (ds : Set NormalPath) (p : NormalPath) (bytes : Bytes)
    (b : Bool) : Prop where
  view : ∀ q ∈ ds, w'.view q = if q = p then some bytes else w.view q
  disk : ∀ q ∈ ds, w'.disk q = w.disk q
  answer : b = true ↔ w.view p ≠ some bytes ∧ w.disk p ≠ some bytes

/-- A write that changes nothing, since the destination is to have its bytes already. -/
private theorem wrote_of_view (h : w.view p = some bytes) : Wrote w w ds p bytes false := by
  refine ⟨fun q _ => ?_, fun q _ => rfl, by simp [h]⟩
  split
  · rename_i hq
    rw [hq, h]
  · rfl

/-- What is read at a destination that is apart is what is on disk. -/
private theorem disk_of_contentOf (h : Consistent w ds) (hp : p ∈ ds) {held : Option Bytes}
    (hd : w.tree.contentOf p = .ok held) : w.disk p = held :=
  (contentOf_plain (h.separate.clear hp) hd).symm

/-- What is read at the temporary path of a staged file is what the destination is to have. -/
private theorem view_of_contentOf (h : Consistent w ds) (htemp : w.staging.tempPath p = .ok temp)
    (hp : w.staging.pending.contains p = true) {held : Option Bytes}
    (hd : w.tree.contentOf temp = .ok held) :
    w.staging.pending.get? p = some temp ∧ w.view p = held := by
  -- what is staged for the destination is its own temporary path
  obtain ⟨temp', hget⟩ := Option.isSome_iff_exists.mp hp
  have hpair := h.pairs p temp' hget
  obtain rfl : temp = temp' := by
    have := hpair.temp
    rw [htemp] at this
    exact Except.ok.inj this
  refine ⟨hget, ?_⟩
  rw [view_of_staged hget]
  exact (contentOf_plain (h.separate.clear_temp hpair) hd).symm

/-- What follows where the tree changes at the temporary path of a destination only, and what is
    staged changes for that destination only: either it is dropped, since the destination has the
    bytes, or it is staged with bytes that the destination does not have. -/
private theorem consistent_of_differsAt (w' : Workspace) (h : Consistent w ds)
    (he : w.staging.Pairs ds (p, temp)) (ht : DiffersAt w.tree w'.tree (w.tree.locate temp))
    (hsuffix : w'.staging.suffix = w.staging.suffix)
    (hothers : ∀ q, q ≠ p → w'.staging.pending.get? q = w.staging.pending.get? q)
    (hself : (w'.staging.pending.get? p = none ∧ w.disk p = some bytes) ∨
      (w'.staging.pending.get? p = some temp ∧ w'.tree.bytesAt temp = some bytes ∧
        w.disk p ≠ some bytes)) :
    Consistent w' ds ∧ (∀ q ∈ ds, w'.disk q = w.disk q) ∧
      ∀ q ∈ ds, w'.view q = if q = p then some bytes else w.view q := by
  -- no destination lies where the tree changes, and of the staged files only that of `p` does
  have hdisk : ∀ q ∈ ds, w'.disk q = w.disk q := fun q hq =>
    ht.bytesAt (h.separate.locate_ne_temp h.suffix w.tree he hq)
  have htemps : ∀ q, q ≠ p → ∀ qtemp, w.staging.pending.get? q = some qtemp →
      w'.tree.bytesAt qtemp = w.tree.bytesAt qtemp := fun q hne qtemp hget =>
    ht.bytesAt (h.separate.apart w.tree (h.pairs q qtemp hget) he hne).2.2
  refine ⟨⟨hsuffix ▸ h.suffix, (h.separate.of_differsAt he ht).of_suffix hsuffix,
    fun q qtemp hget => ?_, fun q qtemp hget => ?_⟩, hdisk, fun q hq => ?_⟩
  · -- what is staged: for this destination by assumption, for the others as before
    by_cases hq : q = p
    · subst hq
      rcases hself with ⟨hnone, -⟩ | ⟨hsome, -⟩
      · rw [hnone] at hget
        exact nomatch hget
      · rw [hsome] at hget
        exact Option.some.inj hget ▸ he.of_suffix hsuffix
    · exact (h.pairs q qtemp (hothers q hq ▸ hget)).of_suffix hsuffix
  · -- the staged files hold their bytes, and the disk is the same
    by_cases hq : q = p
    · subst hq
      rcases hself with ⟨hnone, -⟩ | ⟨hsome, hbytes, hne⟩
      · rw [hnone] at hget
        exact nomatch hget
      · rw [hsome] at hget
        rw [← Option.some.inj hget, hdisk q he.mem]
        exact ⟨bytes, hbytes, hne⟩
    · rw [hothers q hq] at hget
      rw [htemps q hq qtemp hget, hdisk q (h.pairs q qtemp hget).mem]
      exact h.staged q qtemp hget
  · -- the view is that of the staged file, or that of the disk
    by_cases hqp : q = p
    · subst hqp
      rw [if_pos rfl]
      rcases hself with ⟨hnone, hheld⟩ | ⟨hsome, hbytes, -⟩
      · rw [view_of_not_staged hnone, hdisk q hq, hheld]
      · rw [view_of_staged hsome, hbytes]
    · rw [if_neg hqp]
      cases hget : w.staging.pending.get? q with
      | none =>
        rw [view_of_not_staged ((hothers q hqp).trans hget), view_of_not_staged hget, hdisk q hq]
      | some qtemp =>
        rw [view_of_staged ((hothers q hqp).trans hget), view_of_staged hget,
          htemps q hqp qtemp hget]

/-- The ways in which a write that succeeds changes a writer. -/
inductive WriteChange (w : Workspace) (ds : Set NormalPath) (p : NormalPath) (bytes : Bytes) :
    Bool → Workspace → Prop
  /-- The destination is to have these bytes already. If it is not staged, it has been read. -/
  | same (hv : w.view p = some bytes)
      (hr : w.staging.pending.get? p = none → p.IsWalkable) : WriteChange w ds p bytes false w
  /-- The destination has these bytes, and what is staged for it goes. -/
  | dropped {temp : FilePath} {tree : FileTree} (he : w.staging.Pairs ds (p, temp))
      (hp : w.staging.pending.get? p = some temp) (hd : w.disk p = some bytes)
      (ht : DiffersAt w.tree tree (w.tree.locate temp))
      (hnone : tree.lookup (w.tree.locate temp) = none) :
      WriteChange w ds p bytes false { w.unstage p with tree }
  /-- The bytes are new and are staged. Both paths have been walked. -/
  | staged {temp : FilePath} {tree : FileTree} (he : w.staging.Pairs ds (p, temp))
      (hv : w.view p ≠ some bytes) (hd : w.disk p ≠ some bytes)
      (ht : DiffersAt w.tree tree (w.tree.locate temp)) (hb : tree.bytesAt temp = some bytes)
      (hp : faultOf? p = none) (hw : temp.IsWalkable) :
      WriteChange w ds p bytes true
        { staging := { w.staging with pending := w.staging.pending.insert p temp }, tree }

/-- Every write that succeeds changes a consistent writer in one of the listed ways. -/
theorem write_change (h : Consistent w ds) (hp : p ∈ ds) {content : String} {b : Bool}
    (hw : w.write p content = (.ok b, w')) :
    ∃ bytes, w.staging.encode content = .ok bytes ∧ WriteChange w ds p bytes b w' := by
  rcases write_outcome hw with ⟨-, e, he, -⟩ | ⟨temp, bytes, htemp, henc, hout⟩
  · exact nomatch he
  refine ⟨bytes, henc, ?_⟩
  cases hout with
  -- these bytes are staged, or the destination holds them and nothing is staged
  | staged hp' ht =>
    obtain ⟨hget, hview⟩ := view_of_contentOf h htemp hp' ht
    exact .same hview fun hnone => by rw [hget] at hnone; exact nomatch hnone
  | held hp' hd =>
    have hget : w.staging.pending.get? p = none := by simpa [Table.contains] using hp'
    refine .same ?_ fun _ => isWalkable_of_contentOf hd
    rw [view_of_not_staged hget, disk_of_contentOf h hp hd]
  -- a staged file of other bytes is taken out
  | reverted hp' hd hclear =>
    obtain ⟨temp', hget⟩ := Option.isSome_iff_exists.mp hp'
    have he := h.pairs p temp' hget
    obtain rfl : temp = temp' := Except.ok.inj (htemp.symm.trans he.temp)
    obtain ⟨ht, hnone⟩ := without_plain (h.separate.clear_temp he) hclear
    exact .dropped he hget (disk_of_contentOf h hp hd) ht hnone
  | @saved held cleared tree ht hd hne hclear hs =>
    have hheld := disk_of_contentOf h hp hd
    obtain ⟨grown, place, hwalk, hnot⟩ := walk_of_save hs
    have he : w.staging.Pairs ds (p, temp) :=
      ⟨hp, htemp, tempPath_plain (h.separate.plain p hp) htemp hwalk hnot⟩
    -- taking out the old file and saving the new one change the tree at the same location
    obtain ⟨hcleared, -⟩ := without_plain (h.separate.clear_temp he) hclear
    have hsep := h.separate.of_differsAt he hcleared
    obtain ⟨hsaved, hbytes⟩ := save_plain (hsep.clear_temp he) hs
    rw [locate_of_here hcleared.here_eq] at hsaved
    -- a staged file that held these bytes would not have been replaced
    have hnew : w.view p ≠ some bytes := by
      by_cases hp' : w.staging.pending.contains p = true
      · obtain ⟨staged, hstaged, hne'⟩ := ht hp'
        rwa [(view_of_contentOf h htemp hp' hstaged).2]
      · have hget : w.staging.pending.get? p = none := by simpa [Table.contains] using hp'
        rwa [view_of_not_staged hget, hheld]
    exact .staged he hnew (by rwa [hheld]) (hcleared.trans hsaved) hbytes
      (Staging.faultOf?_of_contentOf hd) (isWalkable_of_walk hwalk)

/-- What the listed ways have in common. -/
theorem WriteChange.wrote {b : Bool} (h : Consistent w ds) (hc : WriteChange w ds p bytes b w') :
    Consistent w' ds ∧ Wrote w w' ds p bytes b := by
  cases hc with
  -- in each way the change is at the temporary path, for one destination
  | same hv => exact ⟨h, wrote_of_view hv⟩
  | @dropped temp tree he hp hd ht =>
    obtain ⟨hc, hdisk, hview⟩ := consistent_of_differsAt { w.unstage p with tree } h he ht rfl
      (fun q hq => by simp [unstage, Table.get?_erase, hq])
      (.inl ⟨by simp [unstage, Table.get?_erase], hd⟩)
    exact ⟨hc, hview, hdisk, by simp [hd]⟩
  | @staged temp tree he hv hd ht hb =>
    obtain ⟨hc, hdisk, hview⟩ := consistent_of_differsAt
      ⟨{ w.staging with pending := w.staging.pending.insert p temp }, tree⟩ h he ht rfl
      (fun q hq => by simp [Table.get?_insert, hq])
      (.inr ⟨by simp [Table.get?_insert], hb, hd⟩)
    exact ⟨hc, hview, hdisk, by simp [hv, hd]⟩

/-- What is staged for the other destinations stays. -/
theorem WriteChange.get?_of_ne {b : Bool} (hc : WriteChange w ds p bytes b w') (hq : q ≠ p) :
    w'.staging.pending.get? q = w.staging.pending.get? q := by
  cases hc with
  | same => rfl
  | dropped => simp [unstage, Table.get?_erase, hq]
  | staged => simp [Table.get?_insert, hq]

/-- The settings of a writer stay. -/
theorem WriteChange.settings {b : Bool} (hc : WriteChange w ds p bytes b w') :
    w'.staging.suffix = w.staging.suffix ∧ w'.staging.encoding = w.staging.encoding := by
  cases hc <;> exact ⟨rfl, rfl⟩

/-- **What a write changes.** The destination is to have the new bytes, and the disk stays as it is,
    as does what the other destinations are to have. The answer tells whether the bytes are new,
    compared to what was to be had and to the disk. -/
theorem write_consistent (h : Consistent w ds) (hp : p ∈ ds) {content : String} {b : Bool}
    (hw : w.write p content = (.ok b, w')) :
    Consistent w' ds ∧
      ∃ bytes, w.staging.encode content = .ok bytes ∧ Wrote w w' ds p bytes b := by
  obtain ⟨bytes, henc, hc⟩ := write_change h hp hw
  obtain ⟨hw', hwrote⟩ := hc.wrote h
  exact ⟨hw', bytes, henc, hwrote⟩

/-! ## One commit -/

/-- What a commit changes, and what it answers. -/
structure Committed (w w' : Workspace) (ds : Set NormalPath) (count : Nat) : Prop where
  view : ∀ p ∈ ds, w'.view p = w.view p
  disk : ∀ p ∈ ds, w'.disk p = w'.view p
  pending : w'.staging.pending.entries = []
  /-- No temporary file is left of what was staged. -/
  gone : ∀ p temp, w.staging.pending.get? p = some temp →
    w'.tree.lookup (w'.tree.locate temp) = none
  count : count = w.staging.pending.size

/-- What is staged is a list of pairs of a destination and a temporary file. -/
theorem Consistent.pairs_of_mem (h : Consistent w ds) :
    ∀ e ∈ w.staging.pending.entries, w.staging.Pairs ds e := fun e he =>
  h.pairs e.1 e.2 (Table.get?_eq_some.mpr he)

/-- A commit that succeeds has renamed all that was staged. -/
theorem renamed_of_commit (h : Consistent w ds) {count : Nat}
    (hw : w.commit = (.ok count, w')) :
    Split w w' w.staging.pending.entries [] ∧ count = w.staging.pending.size ∧
      Renamed w.tree w'.tree w.staging.pending.entries := by
  obtain ⟨done, rest, hsplit, hend⟩ := commit_splits w
  rw [hw] at hsplit hend
  rcases hend with ⟨rfl, hok⟩ | ⟨p, temp, later, fault, -, herr, -⟩
  · -- all has been renamed, because a commit that stops reports an error
    obtain rfl : done = w.staging.pending.entries := by
      rw [hsplit.entries, List.append_nil]
    refine ⟨hsplit, Except.ok.inj hok, hsplit.renamed_separate h.separate h.pairs_of_mem
      fun e he entry hentry => ?_⟩
    obtain ⟨bytes, hbytes, -⟩ := h.staged e.1 e.2 (Table.get?_eq_some.mpr he)
    rw [bytesAt_eq_some, hentry] at hbytes
    exact ⟨bytes, Option.some.inj hbytes⟩
  · -- which a commit that succeeds does not
    exact nomatch herr

/-- **What a commit changes.** The destinations get the bytes that they are to have, and nothing is
    staged any more. -/
theorem commit_consistent (h : Consistent w ds) {count : Nat} (hw : w.commit = (.ok count, w')) :
    Consistent w' ds ∧ Committed w w' ds count := by
  obtain ⟨hsplit, hcount, hr⟩ := renamed_of_commit h hw
  have hget : ∀ q, w'.staging.pending.get? q = none := by
    intro q
    rw [Table.get?, hsplit.pending]
    rfl
  -- the disk has what was to be had before
  have hdisk : ∀ p ∈ ds, w'.disk p = w.view p := by
    intro p hp
    cases hpending : w.staging.pending.get? p with
    -- what was staged has been renamed to its destination
    | some temp =>
      obtain ⟨bytes, hbytes, hfilled⟩ := hr.filled (p, temp) (Table.get?_eq_some.mp hpending)
      rw [view_of_staged hpending, bytesAt_eq_some.mpr hbytes, disk, bytesAt_eq_some,
        locate_of_here hr.here_eq, hfilled]
    | none =>
      rw [view_of_not_staged hpending]
      refine bytesAt_congr hr.here_eq (hr.same _ fun e he => ⟨fun hk => ?_, ?_⟩)
      · -- a destination that is not staged is none of those renamed
        have hpair := h.pairs_of_mem e he
        have heq := NormalPath.ext
          (locate_inj (h.separate.isPlain hp) (h.separate.isPlain hpair.mem) hk)
        have hsome : w.staging.pending.get? e.1 = some e.2 := Table.get?_eq_some.mpr he
        rw [heq, hsome] at hpending
        exact nomatch hpending
      · exact h.separate.locate_ne_temp h.suffix w.tree (h.pairs_of_mem e he) hp
  have hview : ∀ p, w'.view p = w'.disk p := fun p => view_of_not_staged (hget p)
  refine ⟨⟨hsplit.suffix ▸ h.suffix, (hr.separate h.separate).of_suffix hsplit.suffix,
    fun p temp hp => ?_, fun p temp hp => ?_⟩,
    fun p hp => by rw [hview, hdisk p hp], fun p _ => (hview p).symm, hsplit.pending,
    fun p temp hp => ?_, hcount⟩
  · -- nothing is staged any more, so neither of the two says anything
    rw [hget] at hp
    exact nomatch hp
  · rw [hget] at hp
    exact nomatch hp
  · -- the temporary file has been renamed away, because it is not the destination
    rw [locate_of_here hr.here_eq]
    refine hr.cleared (p, temp) (Table.get?_eq_some.mp hp) fun heq => ?_
    have htemp : w.staging.tempPath p = .ok temp := (h.pairs p temp hp).temp
    rw [← show p.toFilePath = temp from heq] at htemp
    exact Staging.tempPath_ne h.suffix htemp

/-! ## Whole runs -/

/-- A step of a writer. -/
inductive Step where
  | write (p : NormalPath) (content : String)
  | commit

/-- The workspace after a step, if the step succeeds. -/
def perform (w : Workspace) : Step → Except StagingError Workspace
  | .write p content => (w.write p content).1.map fun _ => (w.write p content).2
  | .commit => w.commit.1.map fun _ => w.commit.2

/-- The workspace after some steps, if they all succeed. -/
def performAll (w : Workspace) (steps : List Step) : Except StagingError Workspace :=
  steps.foldlM perform w

/-- A write that succeeds as a step gives an answer. -/
theorem perform_write_eq_ok {content : String} (h : w.perform (.write p content) = .ok w') :
    ∃ b, w.write p content = (.ok b, w') := by
  have hstep : (fun _ => (w.write p content).2) <$> (w.write p content).1 = .ok w' := h
  obtain ⟨b, hb, rfl⟩ := map_eq_ok.mp hstep
  exact ⟨b, Prod.ext hb rfl⟩

/-- A commit that succeeds as a step gives an answer. -/
theorem perform_commit_eq_ok (h : w.perform .commit = .ok w') :
    ∃ count, w.commit = (.ok count, w') := by
  have hstep : (fun _ => w.commit.2) <$> w.commit.1 = .ok w' := h
  obtain ⟨count, hcount, rfl⟩ := map_eq_ok.mp hstep
  exact ⟨count, Prod.ext hcount rfl⟩

/-- The first of some steps is performed, and then the others. -/
theorem performAll_cons_eq_ok {step : Step} {steps : List Step} :
    w.performAll (step :: steps) = .ok w' ↔
      ∃ w₁, w.perform step = .ok w₁ ∧ w₁.performAll steps = .ok w' := by
  rw [performAll, List.foldlM_cons]
  exact bind_eq_ok

/-- Some steps are performed, and then others. -/
theorem performAll_append_eq_ok {steps steps' : List Step} :
    w.performAll (steps ++ steps') = .ok w' ↔
      ∃ w₁, w.performAll steps = .ok w₁ ∧ w₁.performAll steps' = .ok w' := by
  rw [performAll, List.foldlM_append]
  exact bind_eq_ok

/-- A step keeps a writer consistent. -/
private theorem perform_consistent (h : Consistent w ds) {step : Step}
    (hd : ∀ p content, step = .write p content → p ∈ ds) (hw : w.perform step = .ok w') :
    Consistent w' ds := by
  cases step with
  | write p content =>
    obtain ⟨b, hwrite⟩ := perform_write_eq_ok hw
    exact (write_consistent h (hd p content rfl) hwrite).1
  | commit =>
    obtain ⟨count, hcommit⟩ := perform_commit_eq_ok hw
    exact (commit_consistent h hcommit).1

/-- All steps together keep a writer consistent. -/
theorem performAll_consistent (h : Consistent w ds) {steps : List Step}
    (hd : ∀ p content, .write p content ∈ steps → p ∈ ds) (hw : w.performAll steps = .ok w') :
    Consistent w' ds := by
  -- step by step; the destinations of the other steps are among those of all steps
  induction steps generalizing w with
  | nil => exact Except.ok.inj hw ▸ h
  | cons step steps ih =>
    obtain ⟨w₁, hstep, hrest⟩ := performAll_cons_eq_ok.mp hw
    refine ih (perform_consistent h (fun p content heq => hd p content ?_) hstep)
      (fun p content hmem => hd p content (List.mem_cons_of_mem _ hmem)) hrest
    rw [heq]
    exact List.mem_cons_self

/-- **A writer is a map laid over the files.** Take a writer with a suffix that is no empty text,
    and destinations that are apart. In every state that it reaches by writes and commits that
    succeed:

    * a destination is staged if what it is to have differs from the disk, and then with its
      temporary path;
    * a write changes what its destination is to have and leaves the disk alone; it answers whether
      the bytes are new, compared to both;
    * a commit brings the disk to what is to be had, and leaves nothing staged and no temporary
      files. -/
theorem performAll_overlay {encoding suffix : Json} {t : FileTree} {steps : List Step}
    (hs : suffix ≠ .text "") (hsep : Separate (.create encoding suffix) t ds)
    (hd : ∀ p content, .write p content ∈ steps → p ∈ ds)
    (hw : performAll ⟨.create encoding suffix, t⟩ steps = .ok w) :
    (∀ p ∈ ds, w.staging.pending.contains p = true ↔ w.view p ≠ w.disk p) ∧
      (∀ p temp, w.staging.pending.get? p = some temp →
        p ∈ ds ∧ w.staging.tempPath p = .ok temp) ∧
      (∀ p ∈ ds, ∀ content b w', w.write p content = (.ok b, w') →
        ∃ bytes, w.staging.encode content = .ok bytes ∧ Wrote w w' ds p bytes b) ∧
      ∀ count w', w.commit = (.ok count, w') → Committed w w' ds count := by
  have hstart : Consistent ⟨.create encoding suffix, t⟩ ds :=
    ⟨hs, hsep, fun _ _ hget => (nomatch hget), fun _ _ hget => (nomatch hget)⟩
  -- the overlay holds in every consistent state, so it is enough that this one is
  have h := performAll_consistent hstart hd hw
  refine ⟨fun p _ => h.contains_iff p, fun p temp hp => ?_, fun p hp content b w' hw' => ?_,
    fun count w' hw' => (commit_consistent h hw').2⟩
  · exact ⟨(h.pairs p temp hp).mem, (h.pairs p temp hp).temp⟩
  · exact (write_consistent h hp hw').2

/-- A tree with one file. -/
def oneFileTree : FileTree :=
  ⟨[("work", .directory [("o", .file [1])])], ["work"]⟩

/-- A write and a commit, and a write to another destination. -/
def twoWrites : List Step :=
  [.write (.ofPart "o") "x", .commit, .write (.ofPart "n") "y"]

/-- The workspace after `twoWrites`. -/
def halfDone : Workspace where
  staging :=
    { encoding := .text "utf-8"
      suffix := .text ".tmp"
      pending := ⟨[(.ofPart "n", ⟨.relative, ["n.tmp"]⟩)], by decide⟩ }
  tree := ⟨[("work", .directory [("o", .file [120]), ("n.tmp", .file [121])])], ["work"]⟩

/-- After `twoWrites`, the destination `o` has on disk what it is to have, and `n` has not. -/
theorem performAll_overlay_halfDone :
    performAll ⟨.create (.text "utf-8") (.text ".tmp"), oneFileTree⟩ twoWrites = .ok halfDone ∧
      halfDone.view (.ofPart "o") = halfDone.disk (.ofPart "o") ∧
      halfDone.view (.ofPart "n") ≠ halfDone.disk (.ofPart "n") := by
  have hw : performAll ⟨.create (.text "utf-8") (.text ".tmp"), oneFileTree⟩ twoWrites =
      .ok halfDone := by rfl
  have hsep : Separate (.create (.text "utf-8") (.text ".tmp")) oneFileTree
      { p | p ∈ [NormalPath.ofPart "o", .ofPart "n"] } := by decide
  have hd : ∀ p content, .write p content ∈ twoWrites →
      p ∈ { p | p ∈ [NormalPath.ofPart "o", .ofPart "n"] } := by
    intro p content hmem
    simp only [twoWrites, List.mem_cons, reduceCtorEq, Step.write.injEq, List.not_mem_nil, or_false,
      false_or] at hmem
    rcases hmem with ⟨rfl, -⟩ | ⟨rfl, -⟩
    · exact List.mem_cons_self
    · exact List.mem_cons_of_mem _ List.mem_cons_self
  obtain ⟨hpending, -⟩ := performAll_overlay (by decide) hsep hd hw
  refine ⟨hw, ?_, ?_⟩
  · by_contra hne
    exact absurd ((hpending _ List.mem_cons_self).mpr hne) (by decide)
  · exact (hpending _ (List.mem_cons_of_mem _ List.mem_cons_self)).mp rfl

end Workspace

end ScriptBindings

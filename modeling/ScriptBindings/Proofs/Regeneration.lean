import ScriptBindings.Proofs.StagedView

/-!
# Writing everything once more

When everything has been written and committed, writing it once more changes nothing. In between,
the second writer may stage files again, where a destination is written several times; it takes all
of them out again.

## Key results

- `Written.write` / `Written.commit`: what is known of the destinations after each step
- `Mirrors.write`: what a second writer stages lies where there was nothing
- `regenerate_fixpoint`: a second run leaves everything as it is
-/

namespace ScriptBindings

open FileTree

namespace Workspace

variable {w w' u : Workspace} {ds : Set NormalPath} {es : List (NormalPath × String)}
  {p q : NormalPath} {temp : FilePath} {content : String} {bytes : Bytes}

/-! ## Lists of contents -/

/-- The steps that write a list of contents. -/
def writes (es : List (NormalPath × String)) : List Step :=
  es.map fun e => .write e.1 e.2

/-- The workspace after a list of contents is written, whatever comes of each of them. -/
def writeAll (w : Workspace) (es : List (NormalPath × String)) : Workspace :=
  es.foldl (fun w e => (w.write e.1 e.2).2) w

/-- The content that is written last to a destination. -/
def lastContent (es : List (NormalPath × String)) (p : NormalPath) : Option String :=
  (es.filter (·.1 = p)).getLast?.map Prod.snd

/-- A content that is written after others is the last one of its destination. -/
theorem lastContent_concat (es : List (NormalPath × String)) (p q : NormalPath) (content : String) :
    lastContent (es ++ [(p, content)]) q = if p = q then some content else lastContent es q := by
  -- the new content is the last one of its destination, and no other destination sees it
  simp only [lastContent, getLast?_filter_concat, decide_eq_true_eq]
  split <;> rfl

/-- A destination that something is written to has a last content. -/
theorem lastContent_of_mem (h : (p, content) ∈ es) : ∃ last, lastContent es p = some last := by
  -- what has been written to the destination is not an empty list
  have hmem : (p, content) ∈ es.filter (·.1 = p) := List.mem_filter.mpr ⟨h, by simp⟩
  have hne : es.filter (·.1 = p) ≠ [] := List.ne_nil_of_mem hmem
  exact ⟨_, by rw [lastContent, List.getLast?_eq_some_getLast hne, Option.map_some]⟩

/-! ## The first run -/

/-- The temporary path of a destination has been in use. Both paths can be walked, and a file that
    lies there is a staged one. -/
structure Used (w : Workspace) (ds : Set NormalPath) (p : NormalPath) (temp : FilePath) : Prop where
  pair : w.staging.Pairs ds (p, temp)
  walkable : p.IsWalkable
  temp_walkable : temp.IsWalkable
  no_file : w.staging.pending.get? p = none →
    ∀ bytes, w.tree.lookup (w.tree.locate temp) ≠ some (.file bytes)

/-- All that has been written to a destination is what it holds. -/
structure Unchanged (w : Workspace) (es : List (NormalPath × String)) (p : NormalPath) : Prop where
  pending : w.staging.pending.get? p = none
  holds : ∀ content, (p, content) ∈ es →
    p.IsWalkable ∧ ∃ bytes, w.staging.encode content = .ok bytes ∧ w.disk p = some bytes

/-- What is known after a list of contents has been written. -/
structure Written (w : Workspace) (ds : Set NormalPath) (es : List (NormalPath × String)) :
    Prop where
  settled : ∀ p ∈ ds, (∃ temp, Used w ds p temp) ∨ Unchanged w es p
  last : ∀ p ∈ ds, ∀ content, lastContent es p = some content →
    ∃ bytes, w.staging.encode content = .ok bytes ∧ w.view p = some bytes
  named : ∀ e ∈ es, ∃ temp bytes, w.staging.tempPath e.1 = .ok temp ∧
    w.staging.encode e.2 = .ok bytes

/-- A writer that has written nothing knows nothing of the contents. -/
theorem Written.start {encoding suffix : Json} {t : FileTree} :
    Written ⟨.create encoding suffix, t⟩ ds [] :=
  ⟨fun _ _ => .inr ⟨rfl, by simp⟩, by simp [lastContent], by simp⟩

/-- What is known of the contents may be forgotten. -/
theorem Written.forget (h : Written w ds es) : Written w ds [] := by
  refine ⟨fun p hp => ?_, by simp [lastContent], by simp⟩
  -- either way nothing is said about contents any more
  rcases h.settled p hp with hused | hsame
  · exact .inl hused
  · exact .inr ⟨hsame.pending, by simp⟩

/-- The temporary path of another destination is still in use. -/
private theorem Used.of_change {b : Bool} (h : Consistent w ds) (hu : Used w ds q temp)
    (hc : WriteChange w ds p bytes b w') (hne : q ≠ p) : Used w' ds q temp := by
  refine ⟨hu.pair.of_suffix hc.settings.1, hu.walkable, hu.temp_walkable,
    fun hnone content => ?_⟩
  have hno := hu.no_file (hc.get?_of_ne hne ▸ hnone) content
  -- where the tree has changed, it has got directories at most
  have hkeep : ∀ {ptemp : FilePath} {tree : FileTree}, w.staging.Pairs ds (p, ptemp) →
      DiffersAt w.tree tree (w.tree.locate ptemp) →
        tree.lookup (tree.locate temp) ≠ some (.file content) := by
    intro ptemp tree he ht
    rw [locate_of_here ht.here_eq]
    rcases ht.same _ (h.separate.apart w.tree hu.pair he hne).2.2 with hsame | ⟨-, hdir⟩
    · rwa [hsame]
    · rw [hdir]
      exact nofun
  -- nothing is done, a staged file is dropped, or one is staged
  cases hc with
  | same => exact hno
  | dropped he hp hd ht => exact hkeep he ht
  | staged he hv hd ht => exact hkeep he ht

/-- What is known of a destination after something is written to it. -/
private theorem settled_of_change {b : Bool} (hs : (∃ temp, Used w ds p temp) ∨ Unchanged w es p)
    (henc : w.staging.encode content = .ok bytes) (hc : WriteChange w ds p bytes b w') :
    (∃ temp, Used w' ds p temp) ∨ Unchanged w' (es ++ [(p, content)]) p := by
  cases hc with
  | same hv hr =>
    -- a destination that has been in use stays so
    rcases hs with hused | hsame
    · exact .inl hused
    · -- one that has not been staged holds what it was found to hold
      have hdisk : w.disk p = some bytes := by rw [← view_of_not_staged hsame.pending, hv]
      refine .inr ⟨hsame.pending, fun c hmem => ?_⟩
      rcases List.mem_append.mp hmem with hold | hnew
      · exact hsame.holds c hold
      · obtain rfl : c = content := by simpa using hnew
        exact ⟨hr hsame.pending, bytes, henc, hdisk⟩
  | @dropped temp tree he hp hd ht hnone =>
    -- it has been staged, so its temporary path has been in use
    rcases hs with ⟨temp', hused⟩ | hsame
    · obtain rfl : temp' = temp := Except.ok.inj (hused.pair.temp.symm.trans he.temp)
      refine .inl ⟨temp', he.of_suffix rfl, hused.walkable, hused.temp_walkable,
        fun _ content => ?_⟩
      have hgone : tree.lookup (tree.locate temp') = none := by
        rw [locate_of_here ht.here_eq, hnone]
      rw [hgone]
      exact nofun
    · rw [hsame.pending] at hp
      exact nomatch hp
  | @staged temp tree he hv hd ht hb hp hwalk =>
    -- a staged file needs a destination that can be walked, and it is staged now
    refine .inl ⟨temp, he.of_suffix rfl, ?_, hwalk, fun hnone => ?_⟩
    · exact isWalkable_of_tempPath he.temp he.plain hp hwalk
    · -- what has been staged is pending
      simp [Table.get?_insert] at hnone

/-- **What is known after one more write.** -/
theorem Written.write {b : Bool} (hw : Written w ds es) (h : Consistent w ds) (hp : p ∈ ds)
    (hok : w.write p content = (.ok b, w')) : Written w' ds (es ++ [(p, content)]) := by
  obtain ⟨bytes, henc, hc⟩ := write_change h hp hok
  have hwrote := (hc.wrote h).2
  have hencode := Staging.encode_of_encoding hc.settings.2
  refine ⟨fun q hq => ?_, fun q hq c hlast => ?_, fun e he => ?_⟩
  · -- the destination itself, and the others, which the write does not touch
    by_cases hqp : q = p
    · subst hqp
      exact settled_of_change (hw.settled q hq) henc hc
    · rcases hw.settled q hq with ⟨temp, hused⟩ | hsame
      · exact .inl ⟨temp, hused.of_change h hc hqp⟩
      · refine .inr ⟨by rw [hc.get?_of_ne hqp, hsame.pending], fun c hmem => ?_⟩
        have hold : (q, c) ∈ es := by simpa [hqp] using hmem
        obtain ⟨hwalk, held, henc', hheld⟩ := hsame.holds c hold
        exact ⟨hwalk, held, by rw [hencode, henc'], by rw [hwrote.disk q hq, hheld]⟩
  · -- the last content of the destination is the new one, and that of the others stays
    rw [lastContent_concat] at hlast
    rw [hencode, hwrote.view q hq]
    by_cases hqp : p = q
    · rw [if_pos hqp] at hlast
      obtain rfl := Option.some.inj hlast
      exact ⟨bytes, henc, if_pos hqp.symm⟩
    · rw [if_neg hqp] at hlast
      rw [if_neg (Ne.symm hqp)]
      exact hw.last q hq c hlast
  · rw [hencode, Staging.tempPath_of_suffix hc.settings.1]
    -- a write that succeeds has found its temporary path and its bytes
    rcases List.mem_append.mp he with hold | hnew
    · exact hw.named e hold
    · obtain rfl := List.mem_singleton.mp hnew
      rcases write_outcome hok with ⟨-, fault, hfault, -⟩ | ⟨temp, bytes', htemp, henc', -⟩
      · exact nomatch hfault
      · exact ⟨temp, bytes', htemp, henc'⟩

/-- **What is known after a commit.** -/
theorem Written.commit {count : Nat} (hw : Written w ds es) (h : Consistent w ds)
    (hok : w.commit = (.ok count, w')) : Written w' ds es := by
  obtain ⟨hsplit, -, hr⟩ := renamed_of_commit h hok
  obtain ⟨-, hc⟩ := commit_consistent h hok
  have hencode := Staging.encode_of_encoding hsplit.encoding
  -- a commit that succeeds leaves nothing staged
  have hnone : ∀ q, w'.staging.pending.get? q = none := by
    intro q
    rw [Table.get?, hc.pending]
    rfl
  refine ⟨fun q hq => ?_, fun q hq c hlast => ?_, fun e he => ?_⟩
  · -- temporary files of the destinations have been renamed, or lie where they lay
    rcases hw.settled q hq with ⟨temp, hused⟩ | hsame
    · refine .inl ⟨temp, hused.pair.of_suffix hsplit.suffix, hused.walkable,
        hused.temp_walkable, fun _ content => ?_⟩
      cases hget : w.staging.pending.get? q with
      -- this one has been renamed, so it is gone
      | some temp' =>
        obtain rfl : temp' = temp :=
          Except.ok.inj ((h.pairs q temp' hget).temp.symm.trans hused.pair.temp)
        rw [hc.gone q temp' hget]
        simp
      | none =>
        -- nothing has been renamed from or to this temporary path
        rw [locate_of_here hr.here_eq, hr.same _ fun e he => ?_]
        · exact hused.no_file hget content
        · have hpair := h.pairs_of_mem e he
          have hne : q ≠ e.1 := by
            rintro rfl
            rw [Table.get?_eq_some.mpr he] at hget
            cases hget
          exact ⟨(h.separate.locate_ne_temp h.suffix w.tree hused.pair hpair.mem).symm,
            (h.separate.apart w.tree hused.pair hpair hne).2.2⟩
    · -- the destination was not staged, so it holds what it held
      refine .inr ⟨hnone q, fun c hmem => ?_⟩
      obtain ⟨hwalk, held, henc, hheld⟩ := hsame.holds c hmem
      refine ⟨hwalk, held, by rw [hencode, henc], ?_⟩
      rw [hc.disk q hq, hc.view q hq, view_of_not_staged hsame.pending, hheld]
  · -- a commit makes the view what the disk holds
    rw [hencode, hc.view q hq]
    exact hw.last q hq c hlast
  · rw [hencode, Staging.tempPath_of_suffix hsplit.suffix]
    exact hw.named e he

/-- A writer that has written a list of contents knows them. -/
private theorem Written.writes {fs : List (NormalPath × String)} (hw : Written w ds es)
    (h : Consistent w ds) (hd : ∀ e ∈ fs, e.1 ∈ ds) (hok : w.performAll (writes fs) = .ok w') :
    Written w' ds (es ++ fs) ∧ Consistent w' ds := by
  -- content by content, since each one is written where the others have left the workspace
  induction fs generalizing w es with
  | nil =>
    obtain rfl := Except.ok.inj hok
    simpa using ⟨hw, h⟩
  | cons f fs ih =>
    obtain ⟨w₁, hstep, hrest⟩ := performAll_cons_eq_ok.mp hok
    obtain ⟨b, hwrite⟩ := perform_write_eq_ok hstep
    have hp := hd f List.mem_cons_self
    have := ih (hw.write h hp hwrite) (write_consistent h hp hwrite).1
      (fun e he => hd e (List.mem_cons_of_mem _ he)) hrest
    rwa [List.append_assoc, List.singleton_append] at this

/-- What is known without any contents is known after any steps. -/
private theorem Written.performAll {steps : List Step} (hw : Written w ds [])
    (h : Consistent w ds) (hd : ∀ p content, .write p content ∈ steps → p ∈ ds)
    (hok : w.performAll steps = .ok w') : Written w' ds [] ∧ Consistent w' ds := by
  -- step by step; what is known of contents is forgotten after each write
  induction steps generalizing w with
  | nil =>
    obtain rfl := Except.ok.inj hok
    exact ⟨hw, h⟩
  | cons step steps ih =>
    obtain ⟨w₁, hstep, hrest⟩ := performAll_cons_eq_ok.mp hok
    have hd' : ∀ p content, .write p content ∈ steps → p ∈ ds := fun p content hmem =>
      hd p content (List.mem_cons_of_mem _ hmem)
    cases step with
    | write p content =>
      obtain ⟨b, hwrite⟩ := perform_write_eq_ok hstep
      have hp := hd p content List.mem_cons_self
      exact ih (hw.write h hp hwrite).forget (write_consistent h hp hwrite).1 hd' hrest
    | commit =>
      obtain ⟨count, hcommit⟩ := perform_commit_eq_ok hstep
      exact ih (hw.commit h hcommit) (commit_consistent h hcommit).1 hd' hrest

/-- The settings of a writer stay through all steps. -/
private theorem settings_of_performAll {steps : List Step} (h : Consistent w ds)
    (hd : ∀ p content, .write p content ∈ steps → p ∈ ds) (hok : w.performAll steps = .ok w') :
    w'.staging.suffix = w.staging.suffix ∧ w'.staging.encoding = w.staging.encoding := by
  -- neither a write nor a commit changes the settings
  induction steps generalizing w with
  | nil =>
    obtain rfl := Except.ok.inj hok
    exact ⟨rfl, rfl⟩
  | cons step steps ih =>
    obtain ⟨w₁, hstep, hrest⟩ := performAll_cons_eq_ok.mp hok
    have hd' : ∀ p content, .write p content ∈ steps → p ∈ ds := fun p content hmem =>
      hd p content (List.mem_cons_of_mem _ hmem)
    have hone : Consistent w₁ ds ∧ w₁.staging.suffix = w.staging.suffix ∧
        w₁.staging.encoding = w.staging.encoding := by
      cases step with
      | write p content =>
        obtain ⟨b, hwrite⟩ := perform_write_eq_ok hstep
        obtain ⟨bytes, -, hc⟩ := write_change h (hd p content List.mem_cons_self) hwrite
        exact ⟨(hc.wrote h).1, hc.settings⟩
      | commit =>
        obtain ⟨count, hcommit⟩ := perform_commit_eq_ok hstep
        obtain ⟨hsplit, -, -⟩ := renamed_of_commit h hcommit
        exact ⟨(commit_consistent h hcommit).1, hsplit.suffix, hsplit.encoding⟩
    obtain ⟨hsuffix, hencoding⟩ := ih hone.1 hd' hrest
    exact ⟨hsuffix.trans hone.2.1, hencoding.trans hone.2.2⟩

/-! ## The second run -/

/-- What is known of a content that has been written to a destination, before it is written there
    once more. Where it is not what the destination holds, its temporary path has been in use. -/
structure Known (w : Workspace) (ds : Set NormalPath) (p : NormalPath) (temp : FilePath)
    (bytes held : Bytes) : Prop where
  mem : p ∈ ds
  pending : w.staging.pending.get? p = none
  tempPath : w.staging.tempPath p = .ok temp
  disk : w.disk p = some held
  walkable : p.IsWalkable
  used : bytes ≠ held → Used w ds p temp

/-- All that has been written is known once it is committed. -/
theorem Written.known (hw : Written w ds es) (hc : w.staging.pending.entries = [])
    (hd : ∀ e ∈ es, e.1 ∈ ds) (hmem : (p, content) ∈ es) :
    ∃ temp bytes held, w.staging.encode content = .ok bytes ∧ Known w ds p temp bytes held := by
  -- the commit has left nothing staged
  have hnone : w.staging.pending.get? p = none := by rw [Table.get?, hc]; rfl
  obtain ⟨temp, bytes, htemp, henc⟩ := hw.named _ hmem
  obtain ⟨last, hlast⟩ := lastContent_of_mem hmem
  obtain ⟨held, -, hview⟩ := hw.last p (hd _ hmem) last hlast
  have hdisk : w.disk p = some held := by rw [← view_of_not_staged hnone, hview]
  refine ⟨temp, bytes, held, henc, hd _ hmem, hnone, htemp, hdisk, ?_, fun hne => ?_⟩
  · -- a destination that has not been in use has been walked to when it was read
    rcases hw.settled p (hd _ hmem) with ⟨_, hused⟩ | hsame
    · exact hused.walkable
    · exact (hsame.holds content hmem).1
  · rcases hw.settled p (hd _ hmem) with ⟨temp', hused⟩ | hsame
    · obtain rfl : temp' = temp := Except.ok.inj (hused.pair.temp.symm.trans htemp)
      exact hused
    · -- what has been written to this destination is what it holds
      obtain ⟨-, bytes', henc', hdisk'⟩ := hsame.holds content hmem
      obtain rfl : bytes' = bytes := Except.ok.inj (henc'.symm.trans henc)
      rw [hdisk] at hdisk'
      exact absurd (Option.some.inj hdisk').symm hne

/-- The second writer `u` while it writes once more what the first writer `w` has committed, and has
    come to the end of `done`. Only temporary files are new, for the destinations whose content is
    not the last one yet. -/
structure Mirrors (w u : Workspace) (ds : Set NormalPath) (done : List (NormalPath × String)) :
    Prop where
  consistent : Consistent u ds
  suffix : u.staging.suffix = w.staging.suffix
  encoding : u.staging.encoding = w.staging.encoding
  here_eq : u.tree.here = w.tree.here
  staged : ∀ p temp, u.staging.pending.get? p = some temp →
    temp.IsWalkable ∧ w.tree.lookup (w.tree.locate temp) = none ∧
      ∃ content, lastContent done p = some content ∧
        ∀ bytes, w.staging.encode content = .ok bytes → w.disk p ≠ some bytes
  same : ∀ k, (∀ p temp, u.staging.pending.get? p = some temp → k ≠ w.tree.locate temp) →
    u.tree.lookup k = w.tree.lookup k

/-- A new writer mirrors the first one, as long as it has written nothing. -/
theorem Mirrors.start (h : Consistent w ds) :
    Mirrors w ⟨.create w.staging.encoding w.staging.suffix, w.tree⟩ ds [] where
  consistent := ⟨h.suffix, h.separate.of_suffix rfl, fun _ _ hp => (nomatch hp),
    fun _ _ hp => (nomatch hp)⟩
  suffix := rfl
  encoding := rfl
  here_eq := rfl
  staged := fun _ _ hp => (nomatch hp)
  same := fun _ _ => rfl

section Step

variable {done : List (NormalPath × String)} {held : Bytes}

/-- The temporary paths are those of the first writer. -/
private theorem Mirrors.temp_eq (h : Mirrors w u ds done) (hk : Known w ds p temp bytes held)
    {temp' : FilePath} (hp : u.staging.pending.get? p = some temp') : temp' = temp := by
  have htemp := (Staging.tempPath_of_suffix h.suffix p).trans hk.tempPath
  exact Except.ok.inj ((h.consistent.pairs p temp' hp).temp.symm.trans htemp)

/-- The entries at and around a destination are those of the first writer. -/
private theorem Mirrors.lookup_destination (h : Mirrors w u ds done) (hp : p ∈ ds) :
    u.tree.lookup (w.tree.locate p) = w.tree.lookup (w.tree.locate p) :=
  h.same _ fun _ _ hq =>
    h.consistent.separate.locate_ne_temp h.consistent.suffix w.tree (h.consistent.pairs _ _ hq) hp

/-- What the second writer reads at a destination is what it holds. -/
private theorem Mirrors.contentOf (h : Mirrors w u ds done) (hk : Known w ds p temp bytes held) :
    u.tree.contentOf p = .ok (some held) := by
  -- the destination is what the first writer has left, and can be walked
  refine contentOf_of_lookup (h.consistent.separate.clear hk.mem) hk.walkable ?_
  rw [locate_of_here h.here_eq, h.lookup_destination hk.mem]
  exact bytesAt_eq_some.mp hk.disk

/-- The directory around the temporary path is there, since the destination is. -/
private theorem Mirrors.directory (h : Mirrors w u ds done) (hk : Known w ds p temp bytes held) :
    u.tree.lookup (u.tree.locate temp).tail = some .directory := by
  obtain ⟨hparent, htemp, hparts⟩ := parent_of_tempPath hk.tempPath
  -- the destination is a file of the same directory
  have hfile : u.tree.lookup (u.tree.locate p) = some (.file held) := by
    rw [locate_of_here h.here_eq, h.lookup_destination hk.mem]
    exact bytesAt_eq_some.mp hk.disk
  rw [← locate_parent htemp, hparent, locate_parent hparts]
  exact lookup_tail_of_lookup hfile (ne_nil_of_lookup (by rw [hfile]; exact nofun))

/-- Where something is staged, its temporary file can be read. It differs from the destination. -/
private theorem Mirrors.staged_content (h : Mirrors w u ds done) (hk : Known w ds p temp bytes held)
    (hp : u.staging.pending.get? p = some temp) :
    ∃ staged, u.tree.lookup (u.tree.locate temp) = some (.file staged) ∧
      u.tree.contentOf temp = .ok (some staged) ∧ staged ≠ held := by
  obtain ⟨staged, hstaged, hne⟩ := h.consistent.staged p temp hp
  have hlookup := bytesAt_eq_some.mp hstaged
  -- the temporary file is the one that has been staged, and can be walked
  refine ⟨staged, hlookup, contentOf_of_lookup
    (h.consistent.separate.clear_temp (h.consistent.pairs p temp hp)) (h.staged p temp hp).1
      hlookup, fun heq => hne ?_⟩
  -- if it did not differ, the destination would hold what the temporary file does
  rw [disk, bytesAt_eq_some, locate_of_here h.here_eq, h.lookup_destination hk.mem, heq]
  exact bytesAt_eq_some.mp hk.disk

/-- Bytes can be staged where there is no directory at the temporary path, but one around it. -/
private theorem stage_eq_ok (bytes : Bytes) (h : Consistent u ds)
    (he : u.staging.Pairs ds (p, temp)) (hw : temp.IsWalkable)
    (hd : u.tree.lookup (u.tree.locate temp).tail = some .directory)
    (hv : u.tree.lookup (u.tree.locate temp) ≠ some .directory) :
    ∃ tree, u.stage p temp bytes =
        (.ok true, ⟨{ u.staging with pending := u.staging.pending.insert p temp }, tree⟩) ∧
      tree.here = u.tree.here ∧
      ∀ k, tree.lookup k =
        if k = u.tree.locate temp then some (.file bytes) else u.tree.lookup k := by
  obtain ⟨hparent, hne, -⟩ := parent_of_tempPath he.temp
  have hclear := h.separate.clear_temp he
  obtain ⟨cleared, hwithout, hhere, hcleared⟩ := without_of_not_directory hclear hw hne hd hv
  -- the directory around it is not what has been taken out
  have hkeeps : ∀ k, u.tree.lookup k = some .directory → cleared.lookup k = some .directory := by
    intro k hk
    have hk' : k ≠ u.tree.locate temp := by
      rintro rfl
      exact hv hk
    rw [hcleared, if_neg hk', hk]
  -- clearing takes out one entry and no directory, so the path stays clear
  have hclear' : cleared.IsClear temp := by
    refine hclear.mono hhere (hkeeps _ hclear.here) fun k target hk => ?_
    rw [hcleared] at hk
    split at hk
    · exact nomatch hk
    · exact hk
  have hloc := locate_of_here hhere temp
  obtain ⟨tree, hsave, hhere', hsaved⟩ := save_of_vacant bytes hclear' hw hne
    hparent.symm (by rw [hloc, hkeeps _ hd]) (by rw [hloc, hcleared, if_pos rfl])
  refine ⟨tree, ?_, hhere'.trans hhere, fun k => ?_⟩
  · simp only [stage, hwithout, hsave]
  · rw [hsaved, hloc, hcleared]
    split <;> rfl

/-- What follows for the second writer where one write changes its tree at the temporary path only,
    and what is staged for the destination only. -/
private theorem Mirrors.next {u' : Workspace} (h : Mirrors w u ds done)
    (hk : Known w ds p temp bytes held) (henc : w.staging.encode content = .ok bytes)
    (hc : Consistent u' ds)
    (hsettings : u'.staging.suffix = u.staging.suffix ∧ u'.staging.encoding = u.staging.encoding)
    (hhere : u'.tree.here = u.tree.here)
    (hothers : ∀ q, q ≠ p → u'.staging.pending.get? q = u.staging.pending.get? q)
    (hself : ∀ temp, u'.staging.pending.get? p = some temp →
      temp.IsWalkable ∧ w.tree.lookup (w.tree.locate temp) = none ∧ bytes ≠ held)
    (hsame : ∀ k, k ≠ w.tree.locate temp → u'.tree.lookup k = u.tree.lookup k)
    (hback : u'.staging.pending.get? p = none →
      u'.tree.lookup (w.tree.locate temp) = w.tree.lookup (w.tree.locate temp)) :
    Mirrors w u' ds (done ++ [(p, content)]) := by
  refine ⟨hc, hsettings.1.trans h.suffix, hsettings.2.trans h.encoding, hhere.trans h.here_eq,
    fun q qtemp hq => ?_, fun k hkeep => ?_⟩
  · -- what is staged for this destination is given, and for the others it is what it was
    rw [lastContent_concat]
    by_cases hqp : p = q
    · subst hqp
      obtain ⟨hwalk, hnone, hne⟩ := hself qtemp hq
      refine ⟨hwalk, hnone, content, if_pos rfl, fun bytes' henc' hdisk => hne ?_⟩
      obtain rfl : bytes' = bytes := Except.ok.inj (henc'.symm.trans henc)
      exact Option.some.inj (hdisk.symm.trans hk.disk)
    · rw [if_neg hqp]
      exact h.staged q qtemp (hothers q (Ne.symm hqp) ▸ hq)
  · -- a location is new if it was new before, or if it is that of the temporary path
    by_cases hat : k = w.tree.locate temp
    · subst hat
      refine hback ?_
      -- nothing is staged for the destination, by what `hkeep` says of this location
      by_contra hsome
      obtain ⟨temp', htemp'⟩ := Option.ne_none_iff_exists'.mp hsome
      have htemp := (Staging.tempPath_of_suffix (hsettings.1.trans h.suffix) p).trans hk.tempPath
      obtain rfl : temp' = temp := Except.ok.inj ((hc.pairs p temp' htemp').temp.symm.trans htemp)
      exact hkeep p temp' htemp' rfl
    · rw [hsame k hat]
      refine h.same k fun q qtemp hq => ?_
      by_cases hqp : q = p
      · subst hqp
        rwa [h.temp_eq hk hq]
      · exact hkeep q qtemp (by rw [hothers q hqp, hq])

/-- As long as a destination is not staged again, its temporary path is as the first writer left
    it. -/
private theorem Mirrors.lookup_temp (h : Mirrors w u ds done) (hk : Known w ds p temp bytes held)
    (hp : u.staging.pending.get? p = none) :
    u.tree.lookup (w.tree.locate temp) = w.tree.lookup (w.tree.locate temp) := by
  -- no other destination has this temporary path
  refine h.same _ fun q qtemp hq heq => ?_
  have hpair := h.consistent.pairs q qtemp hq
  have hroot : temp.root = qtemp.root := by
    obtain ⟨suffix, name, -, -, rfl, -⟩ := Staging.tempPath_eq_ok hk.tempPath
    exact (h.consistent.separate.plain p hk.mem).relative.trans hpair.plain.relative.symm
  have hparts : temp.parts = qtemp.parts := by
    simpa [locate] using heq
  have heq' : temp = qtemp := by
    obtain ⟨root, parts⟩ := temp
    exact congrArg₂ FilePath.mk hroot hparts
  have htemp := (Staging.tempPath_of_suffix h.suffix p).trans hk.tempPath
  rw [Staging.tempPath_inj htemp (heq' ▸ hpair.temp), hq] at hp
  cases hp

/-- The second writer still mirrors the first one where nothing has to be done. -/
private theorem Mirrors.keep (h : Mirrors w u ds done) (hk : Known w ds p temp bytes held)
    (henc : w.staging.encode content = .ok bytes)
    (hp : ∀ temp, u.staging.pending.get? p = some temp → bytes ≠ held) :
    Mirrors w u ds (done ++ [(p, content)]) :=
  h.next hk henc h.consistent ⟨rfl, rfl⟩ rfl (fun _ _ => rfl)
    (fun temp' hget => ⟨(h.staged p temp' hget).1, (h.staged p temp' hget).2.1, hp temp' hget⟩)
    (fun _ _ => rfl) (h.lookup_temp hk)

/-- The second writer still mirrors the first one where a staged file is dropped. -/
private theorem Mirrors.drop (h : Mirrors w u ds done) (hk : Known w ds p temp held held)
    (henc : w.staging.encode content = .ok held) (hp : u.staging.pending.get? p = some temp) :
    ∃ u', u.revert p temp = (.ok false, u') ∧
      (Consistent u' ds → Mirrors w u' ds (done ++ [(p, content)])) := by
  -- what is staged is a file, so it can be taken out
  obtain ⟨staged, hlookup, -, -⟩ := h.staged_content hk hp
  have hloc := locate_of_here h.here_eq temp
  obtain ⟨-, hne, -⟩ := parent_of_tempPath hk.tempPath
  obtain ⟨cleared, hwithout, hhere, hcleared⟩ := without_of_not_directory
    (h.consistent.separate.clear_temp (h.consistent.pairs p temp hp)) (h.staged p temp hp).1 hne
    (h.directory hk) (by rw [hlookup]; exact nofun)
  rw [hloc] at hcleared
  have hnone : (u.unstage p).staging.pending.get? p = none := by simp [unstage, Table.get?_erase]
  refine ⟨{ u.unstage p with tree := cleared }, ?_, fun hc => ?_⟩
  · have hcontains : u.staging.pending.contains p = true := by simp [Table.contains, hp]
    have hwithout' : (u.unstage p).tree.without temp = .ok cleared := hwithout
    simp only [revert, hcontains, if_true, hwithout']
  · refine h.next hk henc hc ⟨rfl, rfl⟩ hhere (fun q hq => ?_) (fun temp' hget => ?_)
      -- the other entries are those of before the write
      (fun k hk' => ?_) fun _ => ?_
    · simp [unstage, Table.get?_erase, hq]
    · rw [hnone] at hget
      cases hget
    · rw [hcleared, if_neg hk']
    · -- nothing lay there before the file was staged
      rw [hcleared, if_pos rfl, (h.staged p temp hp).2.1]

/-- The second writer still mirrors the first one where other bytes are staged. -/
private theorem Mirrors.stage (h : Mirrors w u ds done) (hk : Known w ds p temp bytes held)
    (henc : w.staging.encode content = .ok bytes) (hne : bytes ≠ held)
    (hv : u.tree.lookup (u.tree.locate temp) ≠ some .directory) :
    ∃ u', u.stage p temp bytes = (.ok true, u') ∧
      (Consistent u' ds → Mirrors w u' ds (done ++ [(p, content)])) := by
  have hused := hk.used hne
  have hloc := locate_of_here h.here_eq temp
  obtain ⟨tree, hstage, hhere, hlookup⟩ := stage_eq_ok bytes h.consistent
    (hused.pair.of_suffix h.suffix) hused.temp_walkable (h.directory hk) hv
  rw [hloc] at hlookup
  refine ⟨_, hstage, fun hc => ?_⟩
  refine h.next hk henc hc ⟨rfl, rfl⟩ hhere (fun q hq => ?_) (fun temp' hget => ?_)
    (fun k hk' => ?_) fun hget => ?_
  · -- in turn: what is staged for others, for this one, the other entries, and this one again
    simp [Table.get?_insert, hq]
  · obtain rfl : temp = temp' := by simpa [Table.get?_insert] using hget
    -- at the temporary path of the first writer there is nothing
    refine ⟨hused.temp_walkable, ?_, hne⟩
    cases hp : u.staging.pending.get? p with
    | some temp' => exact h.temp_eq hk hp ▸ (h.staged p temp' hp).2.1
    | none =>
      -- it is no directory, no file of the first run and no link
      have heq := h.lookup_temp hk hp
      have hclear := h.consistent.separate.clear_temp (hused.pair.of_suffix h.suffix)
      cases he : w.tree.lookup (w.tree.locate temp) with
      | none => rfl
      | some e =>
        rw [he, ← hloc] at heq
        cases e with
        | directory => exact absurd heq hv
        | file content => exact absurd he (hused.no_file hk.pending content)
        | link target => exact absurd heq (hclear.linkless _ (List.suffix_refl _) target)
  · -- only the temporary path has changed
    rw [hlookup, if_neg hk']
  · simp [Table.get?_insert] at hget

/-- Whether a destination that is staged is staged with given bytes. -/
private theorem isStaged_of_staged {staged : Bytes} (hp : u.staging.pending.get? p = some temp)
    (hread : u.tree.contentOf temp = .ok (some staged)) :
    u.isStaged p temp bytes = .ok (some staged == some bytes) := by
  have hcontains : u.staging.pending.contains p = true := by simp [Table.contains, hp]
  simp only [isStaged, hcontains, if_true, hread]
  rfl

/-- A destination that is not staged is not staged with any bytes. -/
private theorem isStaged_of_not_staged (hp : u.staging.pending.get? p = none) :
    u.isStaged p temp bytes = .ok false := by
  have hcontains : u.staging.pending.contains p = false := by simp [Table.contains, hp]
  simp only [isStaged, hcontains, Bool.false_eq_true, if_false]

/-- Where a destination is not staged with given bytes, it depends on what it holds whether an
    earlier staging is dropped or the bytes are staged. -/
private theorem writeBytes_of_not_staged (hs : u.isStaged p temp bytes = .ok false)
    (hread : u.tree.contentOf p = .ok (some held)) :
    u.writeBytes p temp bytes = if held = bytes then u.revert p temp else u.stage p temp bytes := by
  simp only [writeBytes, hs, hread, Option.some.injEq]

/-- A destination is not staged where a directory lies at its temporary path. -/
private theorem stage_of_directory (h : Consistent u ds) (he : u.staging.Pairs ds (p, temp))
    (hw : temp.IsWalkable) (hd : u.tree.lookup (u.tree.locate temp) = some .directory) :
    u.stage p temp bytes = (.error (.cannotDelete temp), u) := by
  simp only [stage, without_of_directory (h.separate.clear_temp he) hw hd]

/-- The second writer mirrors the first one after a write, which succeeds unless a directory lies at
    the temporary path. -/
structure Mirrored (w : Workspace) (ds : Set NormalPath) (done : List (NormalPath × String))
    (temp : FilePath) (r : Except StagingError Bool × Workspace) : Prop where
  mirrors : Mirrors w r.2 ds done
  succeeds : w.tree.lookup (w.tree.locate temp) ≠ some .directory → ∃ b, r.1 = .ok b

/-- A destination that is staged again is written to. -/
private theorem Mirrors.writeBytes_staged (h : Mirrors w u ds done)
    (hk : Known w ds p temp bytes held) (henc : w.staging.encode content = .ok bytes)
    (hc : ∀ b u', u.writeBytes p temp bytes = (.ok b, u') → Consistent u' ds)
    (hp : u.staging.pending.get? p = some temp) :
    Mirrored w ds (done ++ [(p, content)]) temp (u.writeBytes p temp bytes) := by
  obtain ⟨staged, hlookup, hcontent, hne⟩ := h.staged_content hk hp
  have hstaged : u.isStaged p temp bytes = .ok (some staged == some bytes) :=
    isStaged_of_staged hp hcontent
  -- by whether the bytes are those that are staged, those that are held, or others
  by_cases hbytes : staged = bytes
  · subst hbytes
    have heq : u.writeBytes p temp staged = (.ok false, u) := by
      simp only [writeBytes, hstaged, beq_self_eq_true]
    rw [heq]
    exact ⟨h.keep hk henc fun _ _ => hne, fun _ => ⟨false, rfl⟩⟩
  have hnot : u.isStaged p temp bytes = .ok false := by
    rw [hstaged]
    simp [hbytes]
  have heq := writeBytes_of_not_staged hnot (h.contentOf hk)
  by_cases hheld : held = bytes
  · subst hheld
    obtain ⟨u', hrevert, hmirrors⟩ := h.drop hk henc hp
    rw [if_pos rfl, hrevert] at heq
    rw [heq]
    exact ⟨hmirrors (hc _ _ heq), fun _ => ⟨false, rfl⟩⟩
  · -- what is staged is a file, so no directory lies at its temporary path
    have hv : u.tree.lookup (u.tree.locate temp) ≠ some .directory := by
      rw [hlookup]
      exact nofun
    obtain ⟨u', hstage, hmirrors⟩ := h.stage hk henc (Ne.symm hheld) hv
    rw [if_neg hheld, hstage] at heq
    rw [heq]
    exact ⟨hmirrors (hc _ _ heq), fun _ => ⟨true, rfl⟩⟩

/-- A destination that is not staged is written to. -/
private theorem Mirrors.writeBytes_not_staged (h : Mirrors w u ds done)
    (hk : Known w ds p temp bytes held) (henc : w.staging.encode content = .ok bytes)
    (hc : ∀ b u', u.writeBytes p temp bytes = (.ok b, u') → Consistent u' ds)
    (hp : u.staging.pending.get? p = none) :
    Mirrored w ds (done ++ [(p, content)]) temp (u.writeBytes p temp bytes) := by
  have hkeep := h.keep hk henc fun temp' hget => nomatch hp.symm.trans hget
  have hnot : u.isStaged p temp bytes = .ok false := isStaged_of_not_staged hp
  have heq := writeBytes_of_not_staged hnot (h.contentOf hk)
  -- by whether the destination holds the bytes, and whether they can be staged
  by_cases hheld : held = bytes
  · have hrevert : u.revert p temp = (.ok false, u) := by simp [revert, Table.contains, hp]
    rw [if_pos hheld, hrevert] at heq
    rw [heq]
    exact ⟨hkeep, fun _ => ⟨false, rfl⟩⟩
  rw [if_neg hheld] at heq
  by_cases hv : u.tree.lookup (u.tree.locate temp) = some .directory
  · -- a directory lies at the temporary path, so the write fails and changes nothing
    have hused := hk.used (Ne.symm hheld)
    rw [stage_of_directory h.consistent (hused.pair.of_suffix h.suffix) hused.temp_walkable hv]
      at heq
    rw [locate_of_here h.here_eq, h.lookup_temp hk hp] at hv
    rw [heq]
    exact ⟨hkeep, fun hno => absurd hv hno⟩
  · obtain ⟨u', hstage, hmirrors⟩ := h.stage hk henc (Ne.symm hheld) hv
    rw [hstage] at heq
    rw [heq]
    exact ⟨hmirrors (hc _ _ heq), fun _ => ⟨true, rfl⟩⟩

/-- **What one more write by the second writer does.** It still differs from the first one in
    temporary files only. The write succeeds if there is no directory at the temporary path. -/
theorem Mirrors.write (h : Mirrors w u ds done) (hk : Known w ds p temp bytes held)
    (henc : w.staging.encode content = .ok bytes) :
    Mirrored w ds (done ++ [(p, content)]) temp (u.write p content) := by
  -- both writers have the same temporary paths and bytes
  have hwrite : u.write p content = u.writeBytes p temp bytes := by
    have htemp := (Staging.tempPath_of_suffix h.suffix p).trans hk.tempPath
    have henc' := (Staging.encode_of_encoding h.encoding content).trans henc
    simp only [Workspace.write, htemp, henc']
  -- a write that succeeds keeps the second writer consistent
  have hc : ∀ b u', u.writeBytes p temp bytes = (.ok b, u') → Consistent u' ds :=
    fun b u' hu' => (write_consistent h.consistent hk.mem (hwrite.trans hu')).1
  rw [hwrite]
  cases hp : u.staging.pending.get? p with
  | some temp' =>
    obtain rfl := h.temp_eq hk hp
    exact h.writeBytes_staged hk henc hc hp
  | none => exact h.writeBytes_not_staged hk henc hc hp

end Step

/-- **What the second writer does in all.** It mirrors the first one to the end. All writes succeed
    if no directory lies at the temporary path of a destination. -/
theorem Mirrors.writeAll (h : Mirrors w u ds done) {fs : List (NormalPath × String)}
    (hk : ∀ e ∈ fs, ∃ temp bytes held,
      w.staging.encode e.2 = .ok bytes ∧ Known w ds e.1 temp bytes held) :
    Mirrors w (u.writeAll fs) ds (done ++ fs) ∧
      ((∀ p ∈ ds, ∀ temp, w.staging.tempPath p = .ok temp →
          w.tree.lookup (w.tree.locate temp) ≠ some .directory) →
        u.performAll (writes fs) = .ok (u.writeAll fs)) := by
  -- along the list; the writes that are done are those of the list that `Mirrors` has
  induction fs generalizing u done with
  | nil => exact ⟨by simpa [Workspace.writeAll] using h, fun _ => rfl⟩
  | cons e fs ih =>
    obtain ⟨p, content⟩ := e
    obtain ⟨temp, bytes, held, henc, hknown⟩ := hk _ List.mem_cons_self
    obtain ⟨hmirrors, hsucceeds⟩ := h.write hknown henc
    obtain ⟨hall, hperform⟩ := ih hmirrors fun e he => hk e (List.mem_cons_of_mem _ he)
    rw [List.append_assoc, List.singleton_append] at hall
    refine ⟨hall, fun hno => performAll_cons_eq_ok.mpr ⟨_, ?_, hperform hno⟩⟩
    obtain ⟨b, hb⟩ := hsucceeds (hno p hknown.mem temp hknown.tempPath)
    rw [perform, hb]
    rfl

/-- Where nothing is staged there is nothing to commit. -/
private theorem commit_of_nothing (h : u.staging.pending.entries = []) :
    u.commit = (.ok 0, u) := by
  rw [commit, h]
  rfl

/-- When everything has been written, the second writer has nothing staged, so it has left all
    entries as they are. -/
private theorem Mirrors.settled (h : Mirrors w u ds es) (hw : Written w ds es)
    (hc : w.staging.pending.entries = []) :
    u.staging.pending.entries = [] ∧ ∀ k, u.tree.lookup k = w.tree.lookup k := by
  have hnone : ∀ q, u.staging.pending.get? q = none := by
    -- what is staged differs from the last content, which is what the destination holds
    intro q
    by_contra hsome
    obtain ⟨temp, hq⟩ := Option.ne_none_iff_exists'.mp hsome
    obtain ⟨-, -, content, hlast, hdiffers⟩ := h.staged q temp hq
    obtain ⟨bytes, henc, hview⟩ := hw.last q (h.consistent.pairs q temp hq).mem content hlast
    have hget : w.staging.pending.get? q = none := by rw [Table.get?, hc]; rfl
    rw [view_of_not_staged hget] at hview
    exact hdiffers bytes henc hview
  -- so there is no entry that is staged, and no location that has changed
  refine ⟨List.eq_nil_iff_forall_not_mem.mpr fun e he => ?_, fun k => h.same k fun q temp hq => ?_⟩
  · have hget : u.staging.pending.get? e.1 = some e.2 := Table.get?_eq_some.mpr he
    rw [hnone] at hget
    cases hget
  · rw [hnone q] at hq
    cases hq

/-- **Writing everything once more changes nothing.** Take a writer with a suffix that is no empty
    text, and destinations that are apart. When it has written a list of contents, after whatever
    steps before, and has committed, with all steps successful, let a new writer with the same
    settings write the list once more:

    * nothing is staged in the end, and there is nothing to commit;
    * every entry of the tree is as it was, directories and temporary files included;
    * all writes succeed, unless a directory lies at the temporary path of a destination. A write
      that fails there changes nothing. -/
theorem regenerate_fixpoint {encoding suffix : Json} {t : FileTree} {earlier : List Step}
    (hs : suffix ≠ .text "") (hsep : Separate (.create encoding suffix) t ds)
    (hearlier : ∀ p content, .write p content ∈ earlier → p ∈ ds) (hd : ∀ e ∈ es, e.1 ∈ ds)
    (hw : performAll ⟨.create encoding suffix, t⟩ (earlier ++ writes es ++ [.commit]) = .ok w) :
    let fresh : Workspace := ⟨.create encoding suffix, w.tree⟩
    let again := fresh.writeAll es
    again.staging.pending.entries = [] ∧ again.commit = (.ok 0, again) ∧
      (again.tree.here = w.tree.here ∧ ∀ k, again.tree.lookup k = w.tree.lookup k) ∧
      ((∀ p ∈ ds, ∀ temp, w.staging.tempPath p = .ok temp →
          w.tree.lookup (w.tree.locate temp) ≠ some .directory) →
        fresh.performAll (writes es) = .ok again) := by
  have hstart : Consistent ⟨.create encoding suffix, t⟩ ds :=
    ⟨hs, hsep, fun _ _ hget => (nomatch hget), fun _ _ hget => (nomatch hget)⟩
  -- the run of the first writer is taken apart: earlier steps, the list, the commit
  obtain ⟨w₂, hwritten, hlast⟩ := performAll_append_eq_ok.mp hw
  obtain ⟨w₁, hfirst, hlist⟩ := performAll_append_eq_ok.mp hwritten
  obtain ⟨w₃, hstep, hend⟩ := performAll_cons_eq_ok.mp hlast
  obtain rfl : w₃ = w := Except.ok.inj hend
  obtain ⟨count, hcommit⟩ := perform_commit_eq_ok hstep
  -- what the first writer has written, and what it has committed
  obtain ⟨hknown₁, hc₁⟩ := Written.start.performAll hstart hearlier hfirst
  obtain ⟨hknown₂, hc₂⟩ := hknown₁.writes hc₁ hd hlist
  rw [List.nil_append] at hknown₂
  have hknown := hknown₂.commit hc₂ hcommit
  obtain ⟨hc, hcommitted⟩ := commit_consistent hc₂ hcommit
  -- every destination of the run is one of those that are apart
  have hall : ∀ p content, .write p content ∈ earlier ++ writes es ++ [.commit] → p ∈ ds := by
    intro p content hmem
    simp only [writes, List.mem_append, List.mem_map, List.mem_singleton, reduceCtorEq,
      or_false] at hmem
    rcases hmem with hmem | ⟨e, he, heq⟩
    · exact hearlier p content hmem
    · obtain ⟨rfl, -⟩ := Step.write.inj heq
      exact hd e he
  obtain ⟨hsuffix, hencoding⟩ := settings_of_performAll hstart hall hw
  -- what the second writer does
  have hfresh : Mirrors w₃ ⟨.create encoding suffix, w₃.tree⟩ ds [] := by
    have := Mirrors.start hc
    rwa [hsuffix, hencoding] at this
  obtain ⟨hmirrors, hperform⟩ := hfresh.writeAll fun e he =>
    hknown.known hcommitted.pending hd he
  rw [List.nil_append] at hmirrors
  obtain ⟨hnothing, hlookup⟩ := hmirrors.settled hknown hcommitted.pending
  exact ⟨hnothing, commit_of_nothing hnothing, ⟨hmirrors.here_eq, hlookup⟩, hperform⟩

/-- A tree with two files, and a temporary file that has been left over. -/
def leftoverTree : FileTree :=
  ⟨[("work", .directory [("t", .file [1]), ("k", .file [107]), ("k.tmp", .file [9])])], ["work"]⟩

/-- Two contents for one destination, and what the other one holds already. -/
def threeContents : List (NormalPath × String) :=
  [(.ofPart "t", "x"), (.ofPart "t", "y"), (.ofPart "k", "k")]

/-- The workspace after `threeContents` have been written and committed. -/
def rewritten : Workspace where
  staging := .create (.text "utf-8") (.text ".tmp")
  tree :=
    ⟨[("work", .directory [("t", .file [121]), ("k", .file [107]), ("k.tmp", .file [9])])],
      ["work"]⟩

/-- Writing `threeContents` once more succeeds, and leaves the temporary file where it is. -/
theorem regenerate_fixpoint_leftover :
    performAll ⟨.create (.text "utf-8") (.text ".tmp"), leftoverTree⟩
        ([] ++ writes threeContents ++ [.commit]) = .ok rewritten ∧
      ∃ again, rewritten.performAll (writes threeContents) = .ok again ∧
        again.staging.pending.entries = [] ∧
        again.tree.lookup ["k.tmp", "work"] = some (.file [9]) := by
  have hw : performAll ⟨.create (.text "utf-8") (.text ".tmp"), leftoverTree⟩
      ([] ++ writes threeContents ++ [.commit]) = .ok rewritten := by rfl
  have hsep : Separate (.create (.text "utf-8") (.text ".tmp")) leftoverTree
      { p | p ∈ [NormalPath.ofPart "t", .ofPart "k"] } := by decide
  have hd : ∀ e ∈ threeContents, e.1 ∈ [NormalPath.ofPart "t", .ofPart "k"] := by decide
  obtain ⟨hnothing, -, ⟨-, hlookup⟩, hperform⟩ :=
    regenerate_fixpoint (by decide) hsep (fun _ _ hmem => absurd hmem List.not_mem_nil) hd hw
  refine ⟨hw, _, hperform fun p hp temp htemp => ?_, hnothing, hlookup ["k.tmp", "work"]⟩
  rcases List.mem_pair.mp hp with rfl | rfl <;> obtain rfl := Except.ok.inj htemp <;> decide

end Workspace

end ScriptBindings

import Mathlib.Data.List.Induction
import ScriptBindings.Proofs.StagingSteps
import ScriptBindings.Proofs.Traversals
import ScriptBindings.Run

/-!
# Runs that are left by a failure

What the writes of a run change in the file tree. The temporary files are the only ones that a write
takes out or puts in, and directories on the way to them are all that it adds, so a run without a
commit leaves every destination as it was.

## Key results

- `write_frame`: what one write may change, whether it succeeds or fails
- `performAll_old` / `performAll_new`: what the writes of a run may change
- `aborted_run_frame`: a run that is left by a failure touches temporary files only
-/

namespace ScriptBindings

open FileTree

/-! ## One write -/

namespace Workspace

variable {w w' : Workspace} {p : NormalPath} {temp : FilePath} {bytes : Bytes}
  {r : Except StagingError Bool}

/-- The temporary path of the destination leads to the location. -/
def TempAt (s : Staging) (t : FileTree) (p : NormalPath) (k : Location) : Prop :=
  ∃ temp, s.tempPath p = .ok temp ∧ t.LeadsTo temp k

/-- What a write may change. -/
structure Framed (w w' : Workspace) (p : NormalPath) : Prop where
  suffix : w'.staging.suffix = w.staging.suffix
  here : w'.tree.here = w.tree.here
  /-- Every entry stays, unless it lies at the temporary path. -/
  old : ∀ k e, w.tree.lookup k = some e →
    w'.tree.lookup k = some e ∨ TempAt w.staging w.tree p k
  /-- Every entry was there, or is the temporary file or a directory on the way to it. -/
  new : ∀ k e, w'.tree.lookup k = some e →
    w.tree.lookup k = some e ∨ (∃ bytes, e = .file bytes ∧ TempAt w.staging w'.tree p k) ∨
      (e = .directory ∧ w'.tree.OnWay p.parent k)

theorem Framed.refl (w : Workspace) (p : NormalPath) : Framed w w p :=
  ⟨rfl, rfl, fun _ _ h => .inl h, fun _ _ h => .inl h⟩

/-- Taking out what lies at the temporary path. -/
private theorem old_of_without {cleared : FileTree} (htemp : w.staging.tempPath p = .ok temp)
    (hw : w.tree.without temp = .ok cleared) {k : Location} {e : Entry}
    (hk : w.tree.lookup k = some e) :
    cleared.lookup k = some e ∨ TempAt w.staging w.tree p k := by
  -- only the location that the temporary path leads to is emptied
  rcases (lookup_without hw).2 k with heq | ⟨-, e', hwalk, -⟩
  · exact .inl (heq.trans hk)
  · exact .inr ⟨temp, htemp, _, hwalk, by cases e' <;> rfl⟩

/-- Taking out what lies at the temporary path adds nothing. -/
private theorem new_of_without {t cleared : FileTree} (hw : t.without temp = .ok cleared)
    {k : Location} {e : Entry} (hk : cleared.lookup k = some e) : t.lookup k = some e := by
  rcases (lookup_without hw).2 k with heq | ⟨hnone, -⟩
  · exact heq.symm.trans hk
  · rw [hnone] at hk
    exact nomatch hk

/-- What has been added to a tree was there or lies on the way. -/
private theorem new_of_adds {t t' : FileTree} {q : FilePath} (h : AddsDirectories t t' q)
    {k : Location} {e : Entry} (hk : t'.lookup k = some e) :
    t.lookup k = some e ∨ (e = .directory ∧ t'.OnWay q k) := by
  cases ht : t.lookup k with
  | none => exact .inr (h.onWay k e ht hk)
  | some e' => exact .inl (by rw [← hk, h.keeps k e' ht])

/-- Writing the temporary file where there is nothing. -/
private theorem framed_of_put {cleared grown : FileTree} {k : Location} {pending : Table _ _}
    (htemp : w.staging.tempPath p = .ok temp) (hw : w.tree.without temp = .ok cleared)
    (hadds : AddsDirectories cleared grown p.parent)
    (hv : grown.walk false temp = .ok (.vacant k)) :
    Framed w ⟨{ w.staging with pending }, grown.put k (.file bytes)⟩ p := by
  obtain ⟨hnone, hne⟩ := vacant_of_walk hv
  have hbare := Node.isBare_file bytes
  have hgrows := grows_put hne hnone hbare
  refine ⟨rfl, (here_put _).trans (hadds.here_eq.trans (lookup_without hw).1),
    fun j e hj => ?_, fun j e hj => ?_⟩
  · -- what stays was not at the temporary path, and nothing is overwritten
    rcases old_of_without htemp hw hj with hj | hj
    · exact .inl (hgrows.keeps j e (hadds.keeps j e hj))
    · exact .inr hj
  · -- the file is what is new, if the directory that it goes to is there
    have hj' : grown.lookup j = some e ∨ (j = k ∧ e = .file bytes) := by
      rcases put_vacant hne hnone hbare with heq | hput
      · rw [heq] at hj
        exact .inl hj
      · rw [hput] at hj
        split at hj
        · rename_i hjk
          exact .inr ⟨hjk, (Option.some.inj hj).symm⟩
        · exact .inl hj
    rcases hj' with hj' | ⟨rfl, rfl⟩
    · -- what is not the file was there or is on the way, which the file does not block
      rcases new_of_adds hadds hj' with hold | ⟨hdir, hway⟩
      · exact .inl (new_of_without hw hold)
      · exact .inr (.inr ⟨hdir, hway.mono hgrows⟩)
    · exact .inr (.inl ⟨bytes, rfl, temp, htemp, _,
        walk_filled hgrows.keepsWays hgrows.here_eq hv (.inl rfl) hj nofun, rfl⟩)

/-- **What one write may change**, whether it succeeds or fails: what lies at the temporary path is
    taken out, and the temporary file and directories on the way to it are put in. -/
theorem write_frame {content : String} (hc : p.ClimbsFirst) (h : w.write p content = (r, w')) :
    Framed w w' p := by
  rcases write_outcome h with ⟨rfl, -⟩ | ⟨temp, bytes, htemp, -, hout⟩
  · exact .refl _ p
  -- the outcomes up to `uncleared` leave the workspace as it is
  cases hout with
  | unread _ => exact .refl _ p
  | staged _ _ => exact .refl _ p
  | held _ _ => exact .refl _ p
  | uncleared _ => exact .refl _ p
  -- here the temporary file is taken out and nothing is put in
  | reverted _ _ hw =>
    exact ⟨rfl, (lookup_without hw).1, fun k e hk => old_of_without htemp hw hk,
      fun k e hk => .inl (new_of_without hw hk)⟩
  | @unsaved e cleared tree hw hs =>
    -- the file was not written, but the directories that were made stay
    obtain ⟨rfl, -⟩ := save_eq_error hs
    have hadds := makeDirectories_adds cleared p.parent
    refine ⟨rfl, hadds.here_eq.trans (lookup_without hw).1, fun k e hk => ?_, fun k e hk => ?_⟩
    · rcases old_of_without htemp hw hk with hk | hk
      · exact .inl (hadds.keeps k e hk)
      · exact .inr hk
    · rcases new_of_adds hadds hk with hk | hway
      · exact .inl (new_of_without hw hk)
      · exact .inr (.inr hway)
  | @saved held cleared tree _ _ _ hw hs =>
    -- the file has been written, so its parent is there and its place was empty
    obtain ⟨grown, hm, hcreate⟩ := save_eq_ok hs
    obtain ⟨k, hv, rfl⟩ := create_vacant (Staging.isBeside_of_tempPath htemp) hc.parent hw hm
      hcreate
    have hadds := makeDirectories_adds cleared p.parent
    rw [hm] at hadds
    exact framed_of_put htemp hw hadds hv

end Workspace

/-! ## Whole runs -/

namespace Run

/-- What can be done in a run, apart from a commit. -/
inductive Action where
  | write (p : NormalPath) (content : String)
  | classPath (m : Model) (s : Struct)
  | methodPath (m : Model) (s : Struct) (method : String) (isStatic : Bool)
  | functionPath (m : Model) (s : Struct) (f : HostFunction)

/-- The run after an action, whatever comes of it. -/
def perform (r : Run) : Action → Run
  | .write p content => (r.write p content).run
  | .classPath m s => (r.classPath m s).run
  | .methodPath m s method isStatic => (r.methodPath m s method isStatic).run
  | .functionPath m s f => (r.functionPath m s f).run

/-- The run after some actions. -/
def performAll (r : Run) (acts : List Action) : Run :=
  acts.foldl perform r

/-- The file tree of a run. -/
def tree (r : Run) : FileTree := r.workspace.tree

/-- One of the writes finds its temporary path leading to the location. -/
def ClearsAt (r : Run) (acts : List Action) (k : Location) : Prop :=
  ∃ before p content after, acts = before ++ .write p content :: after ∧
    Workspace.TempAt r.workspace.staging (r.performAll before).tree p k

/-- One of the writes leaves its temporary path leading to the location. -/
def StagesAt (r : Run) (acts : List Action) (k : Location) : Prop :=
  ∃ before p content after, acts = before ++ .write p content :: after ∧
    Workspace.TempAt r.workspace.staging (r.performAll (before ++ [.write p content])).tree p k

/-- One of the writes leaves a directory at the location, on the way to its temporary path. -/
def MakesWayAt (r : Run) (acts : List Action) (k : Location) : Prop :=
  ∃ before p content after, acts = before ++ .write p content :: after ∧
    (r.performAll (before ++ [.write p content])).tree.OnWay p.parent k

variable {r : Run} {acts : List Action} {k : Location} {e : Entry}

private theorem append_cons_append {α : Type} {xs before after : List α} {x : α}
    (h : xs = before ++ x :: after) (y : α) : xs ++ [y] = before ++ x :: (after ++ [y]) := by
  rw [h, List.append_assoc, List.cons_append]

theorem ClearsAt.append (h : r.ClearsAt acts k) (a : Action) : r.ClearsAt (acts ++ [a]) k := by
  obtain ⟨before, p, content, after, hacts, htemp⟩ := h
  exact ⟨before, p, content, after ++ [a], append_cons_append hacts a, htemp⟩

theorem StagesAt.append (h : r.StagesAt acts k) (a : Action) : r.StagesAt (acts ++ [a]) k := by
  obtain ⟨before, p, content, after, hacts, htemp⟩ := h
  exact ⟨before, p, content, after ++ [a], append_cons_append hacts a, htemp⟩

theorem MakesWayAt.append (h : r.MakesWayAt acts k) (a : Action) :
    r.MakesWayAt (acts ++ [a]) k := by
  obtain ⟨before, p, content, after, hacts, hway⟩ := h
  exact ⟨before, p, content, after ++ [a], append_cons_append hacts a, hway⟩

/-- All paths that are written to go up first if at all. -/
def PathsClimbFirst (acts : List Action) : Prop :=
  ∀ p content, Action.write p content ∈ acts → p.ClimbsFirst

theorem performAll_append (r : Run) (acts : List Action) (a : Action) :
    r.performAll (acts ++ [a]) = (r.performAll acts).perform a := by
  simp [performAll]

/-- An action that is no write leaves the workspace alone. -/
private theorem workspace_perform (r : Run) {a : Action} (h : ∀ p content, a ≠ .write p content) :
    (r.perform a).workspace = r.workspace := by
  cases a with
  | write p content => exact absurd rfl (h p content)
  | classPath m s => rfl
  | methodPath m s method isStatic => rfl
  | functionPath m s f => rfl

/-- A write in a run changes what a write may change. -/
private theorem perform_frame (r : Run) {p : NormalPath} (content : String)
    (hc : p.ClimbsFirst) :
    Workspace.Framed r.workspace (r.perform (.write p content)).workspace p :=
  Workspace.write_frame hc rfl

/-- The suffix of temporary files is the same all through a run. -/
private theorem suffix_performAll (r : Run) {acts : List Action} (hp : PathsClimbFirst acts) :
    (r.performAll acts).workspace.staging.suffix = r.workspace.staging.suffix := by
  induction acts using List.reverseRecOn with
  -- the induction is on the last action, since each one acts on what the others have left
  | nil => rfl
  | append_singleton acts a ih =>
    have hacts := ih fun p content h => hp p content (List.mem_append_left _ h)
    rw [performAll_append]
    by_cases hw : ∃ p content, a = .write p content
    · obtain ⟨p, content, rfl⟩ := hw
      have hc := hp p content (by simp)
      rw [(perform_frame _ content hc).suffix, hacts]
    · -- only a write acts on the staging
      simp only [not_exists] at hw
      rw [workspace_perform _ hw, hacts]

/-- The temporary paths are the same all through a run. -/
private theorem tempAt_performAll {t : FileTree} {p : NormalPath} (hp : PathsClimbFirst acts) :
    Workspace.TempAt (r.performAll acts).workspace.staging t p k ↔
      Workspace.TempAt r.workspace.staging t p k := by
  unfold Workspace.TempAt
  rw [Staging.tempPath_of_suffix (suffix_performAll r hp)]

/-- What no write finds at its temporary path stays as it is. -/
theorem performAll_old (hp : PathsClimbFirst acts) (hk : r.tree.lookup k = some e)
    (hclear : ¬ r.ClearsAt acts k) : (r.performAll acts).tree.lookup k = some e := by
  induction acts using List.reverseRecOn with
  | nil => exact hk
  | append_singleton acts a ih =>
    have hp' : PathsClimbFirst acts := fun p content h => hp p content (List.mem_append_left _ h)
    have hacts := ih hp' fun h => hclear (h.append a)
    rw [performAll_append]
    by_cases hw : ∃ p content, a = .write p content
    · obtain ⟨p, content, rfl⟩ := hw
      have hc := hp p content (by simp)
      rcases (perform_frame (r.performAll acts) content hc).old k e hacts with h | h
      · exact h
      · -- this write would have found the entry
        exact absurd ⟨acts, p, content, [], rfl, (tempAt_performAll hp').mp h⟩ hclear
    · simp only [not_exists] at hw
      rw [tree, workspace_perform _ hw]
      exact hacts

/-- What is there after some actions was there before, or is a temporary file, or a directory on the
    way to one. -/
theorem performAll_new (hp : PathsClimbFirst acts)
    (hk : (r.performAll acts).tree.lookup k = some e) :
    r.tree.lookup k = some e ∨ ((∃ bytes, e = .file bytes) ∧ r.StagesAt acts k) ∨
      (e = .directory ∧ r.MakesWayAt acts k) := by
  induction acts using List.reverseRecOn with
  | nil => exact .inl hk
  | append_singleton acts a ih =>
    have hp' : PathsClimbFirst acts := fun p content h => hp p content (List.mem_append_left _ h)
    -- what was there before the last action
    have hearlier : (r.performAll acts).tree.lookup k = some e →
        r.tree.lookup k = some e ∨ ((∃ bytes, e = .file bytes) ∧ r.StagesAt (acts ++ [a]) k) ∨
          (e = .directory ∧ r.MakesWayAt (acts ++ [a]) k) := by
      intro h
      rcases ih hp' h with h | ⟨hfile, h⟩ | ⟨hdir, h⟩
      · exact .inl h
      · exact .inr (.inl ⟨hfile, h.append a⟩)
      · exact .inr (.inr ⟨hdir, h.append a⟩)
    by_cases hw : ∃ p content, a = .write p content
    · obtain ⟨p, content, rfl⟩ := hw
      have hc := hp p content (by simp)
      have hk' := hk
      rw [performAll_append] at hk'
      rcases (perform_frame (r.performAll acts) content hc).new k e hk' with
        h | ⟨bytes, hfile, h⟩ | ⟨hdir, h⟩
      · exact hearlier h
      · -- the last write is the one that has staged the file
        refine .inr (.inl ⟨⟨bytes, hfile⟩, acts, p, content, [], rfl, ?_⟩)
        rw [performAll_append]
        exact (tempAt_performAll hp').mp h
      · -- or the one that has made the directory
        refine .inr (.inr ⟨hdir, acts, p, content, [], rfl, ?_⟩)
        rw [performAll_append]
        exact h
    · simp only [not_exists] at hw
      rw [performAll_append, tree, workspace_perform _ hw] at hk
      exact hearlier hk

/-- Settings that are in range have a suffix that is no empty text. -/
private theorem isTelling_of_validate {config : Config} {u : Unit} (h : config.validate = .ok u) :
    config.tempSuffix.isTelling = true := by
  unfold Config.validate at h
  obtain ⟨depth, -, h⟩ := bind_eq_ok.mp h
  cases htelling : config.tempSuffix.isTelling with
  | true => rfl
  | false =>
    rw [htelling] at h
    exact nomatch h

/-- A run begins in the given tree, with a suffix that is no empty text. -/
private theorem create_eq_ok {config : Config} {t : FileTree} (h : Run.create config t = .ok r) :
    r.tree = t ∧ r.workspace.staging.suffix = config.tempSuffix ∧
      config.tempSuffix.isTelling = true := by
  unfold Run.create at h
  -- the settings have been checked before anything else is done
  obtain ⟨_, hvalid, h⟩ := bind_eq_ok.mp h
  obtain ⟨layout, -, h⟩ := bind_eq_ok.mp h
  obtain rfl := Except.ok.inj h
  exact ⟨rfl, rfl, isTelling_of_validate hvalid⟩

/-- **An aborted run touches no destination.** Take any settings that are in range and any tree, and
    any writes and look-ups of paths, whether they succeed or fail, and leave the run by a failure.
    Every entry that was there and that no write has found at its temporary path is as it was. Every
    new entry is a temporary file, or a directory on the way to one. No temporary path is that of
    its destination. -/
theorem aborted_run_frame {config : Config} {t : FileTree} (hr : Run.create config t = .ok r)
    (hp : PathsClimbFirst acts) :
    (∀ k e, t.lookup k = some e → ¬ r.ClearsAt acts k →
        ((r.performAll acts).leave true).run.tree.lookup k = some e) ∧
      (∀ k e, t.lookup k = none → ((r.performAll acts).leave true).run.tree.lookup k = some e →
        ((∃ bytes, e = .file bytes) ∧ r.StagesAt acts k) ∨
          (e = .directory ∧ r.MakesWayAt acts k)) ∧
      ∀ p, r.tempPath p ≠ .ok p := by
  obtain ⟨rfl, hsuffix, htelling⟩ := create_eq_ok hr
  refine ⟨fun k e hk hclear => performAll_old hp hk hclear, fun k e hk hnew => ?_,
    fun p htemp => ?_⟩
  · rcases performAll_new hp hnew with h | h
    · -- nothing lay there before the run
      rw [hk] at h
      exact nomatch h
    · exact h
  · -- only an empty suffix would make a temporary path its destination
    refine Staging.tempPath_ne (fun hempty => ?_) htemp
    rw [← hsuffix, hempty] at htelling
    simp [Json.isTelling, Scalar.isTelling] at htelling

/-- Settings that are in range. -/
def plainConfig : Config where
  scriptsPath := .ofPart "scripts"
  depth := .int 4
  tempSuffix := .text ".tmp"
  encoding := .text "utf-8"

/-- A run that has just begun, where there is one file. -/
def oneFile : Run where
  config := plainConfig
  layout := ⟨⟨plainConfig.scriptsPath, .levels 4⟩, []⟩
  workspace :=
    ⟨.create plainConfig.encoding plainConfig.tempSuffix,
      ⟨[("work", .directory [("s", .file [1])])], ["work"]⟩⟩

/-- A write that stages the file, and one that finds it in the way. -/
def stagedThenFailed : List Action :=
  [.write (.ofPart "s") "x", .write ((NormalPath.ofPart "s").append (.ofPart "i")) "y"]

/-- The file `s` is staged with another content and then found in the way of `s/i`. It is as it was
    when the run is left by that failure. -/
theorem aborted_run_frame_oneFile :
    Run.create plainConfig oneFile.tree = .ok oneFile ∧ PathsClimbFirst stagedThenFailed ∧
      oneFile.tree.lookup ["s", "work"] = some (.file [1]) ∧
      ¬ oneFile.ClearsAt stagedThenFailed ["s", "work"] ∧
      ((oneFile.performAll stagedThenFailed).leave true).run.tree.lookup ["s", "work"] =
        some (.file [1]) := by
  have hr : Run.create plainConfig oneFile.tree = .ok oneFile := rfl
  have hp : PathsClimbFirst stagedThenFailed := by
    intro p content h
    simp only [stagedThenFailed, List.mem_cons, List.not_mem_nil, or_false, Action.write.injEq] at h
    rcases h with ⟨rfl, -⟩ | ⟨rfl, -⟩ <;> decide
  have hclear : ¬ oneFile.ClearsAt stagedThenFailed ["s", "work"] := by
    rintro ⟨before, p, content, after, hacts, temp, htemp, place, hwalk, hk⟩
    -- neither of the two writes finds the file
    match before with
    | [] =>
      obtain ⟨⟨rfl, rfl⟩, rfl⟩ : (_ ∧ _) ∧ _ := by simpa [stagedThenFailed] using hacts
      obtain rfl := Except.ok.inj htemp
      obtain rfl := Except.ok.inj hwalk
      exact absurd hk (by decide)
    | [first] =>
      obtain ⟨rfl, ⟨rfl, rfl⟩, rfl⟩ : _ ∧ (_ ∧ _) ∧ _ := by simpa [stagedThenFailed] using hacts
      obtain rfl := Except.ok.inj htemp
      exact nomatch hwalk
    | _ :: _ :: before => simp [stagedThenFailed] at hacts
  exact ⟨hr, hp, rfl, hclear, (aborted_run_frame hr hp).1 _ _ rfl hclear⟩

end Run

end ScriptBindings

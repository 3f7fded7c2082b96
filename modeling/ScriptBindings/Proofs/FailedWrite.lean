import ScriptBindings.Proofs.StagingSteps

/-!
# Writes that fail

What a write leaves behind when it fails. The temporary file is taken out before anything else is
tried, so a write is atomic because whatever fails later would have failed before, with one
exception: a link at the temporary path may be the way to the directory of the destination.

## Key results

- `create_of_isDirectory`: where an entry was taken out, a file can be written
- `failed_write_keeps`: what is staged and all entries stay, apart from a link on the way
- `failed_write_removes_link`: such a link is lost
-/

namespace ScriptBindings

open FileTree

namespace FileTree

variable {t cleared : FileTree} {p temp : FilePath} {bytes : Bytes} {k : Location}

/-- Where an entry was taken out a file can be written, if its directory is still reached. -/
theorem create_of_isDirectory (bytes : Bytes) (hb : Staging.IsBeside p temp) {e : Entry}
    (hne : e ≠ .directory) (hw : t.walk false temp = .ok (placeOf k e))
    (hclear : t.without temp = .ok cleared) (hdir : cleared.isDirectory p.parent = true) :
    ∃ saved, cleared.create temp bytes = .ok saved := by
  -- the temporary path goes by one part beyond the directory, and nothing lies there any more
  obtain ⟨part, rfl, hone⟩ := hb
  obtain ⟨name, hnamed, hname⟩ := isNamed_of_walk hone hw (placeOf_ne_directory hne)
  obtain ⟨d, hd⟩ := isDirectory_iff.mp hdir
  have hnone := lookup_none_of_without hnamed hname hclear hd
  have hvacant : cleared.walk true ⟨p.parent.root, p.parent.parts ++ [part]⟩ =
      .ok (.vacant (name :: d)) := walk_named_vacant hnamed hname (faultOf?_of_walk hw) hd hnone
  exact ⟨_, create_eq_ok.mpr ⟨_, .inl hvacant, rfl⟩⟩

/-- What lies at a temporary path lies in the directory of the destination. -/
theorem isDirectory_parent_of_walk (hb : Staging.IsBeside p temp) {e : Entry} (hne : e ≠ .directory)
    (hw : t.walk false temp = .ok (placeOf k e)) : t.isDirectory p.parent = true := by
  obtain ⟨part, rfl, hone⟩ := hb
  -- a walk that arrives beyond the parent goes through it
  obtain ⟨name, hnamed, -⟩ := isNamed_of_walk hone hw (placeOf_ne_directory hne)
  exact isDirectory_iff.mpr (directory_of_walk_beyond hnamed.piecesOf_ne_nil hw)

/-- A file that is taken out is on the way to no directory. -/
theorem isDirectory_of_file_removed {q : FilePath} {content : Bytes}
    (hw : t.walk false temp = .ok (placeOf k (.file content))) (h : t.isDirectory q = true) :
    (t.remove k).isDirectory q = true := by
  -- the entry is a file, so it is not what the way goes through
  obtain ⟨d, hd⟩ := isDirectory_iff.mp h
  obtain ⟨hk, -⟩ := entry_of_walk hw nofun
  -- directories and links stay, and those are all that a way consists of
  have hkeep : ∀ j e, (∀ c, e ≠ .file c) → t.lookup j = some e →
      (t.remove k).lookup j = some e := by
    intro j e hfile hj
    rw [lookup_remove_of_walk hw nofun, if_neg, hj]
    rintro rfl
    rw [hk] at hj
    exact hfile content (Option.some.inj hj).symm
  have hways : KeepsWays t (t.remove k) :=
    ⟨fun j => hkeep j _ nofun, fun j target => hkeep j _ nofun⟩
  exact isDirectory_iff.mpr ⟨d, walk_directory_mono hways here_remove hd⟩

/-- A path without null characters does not fail for one when a file is written. -/
theorem fault_of_create (hf : faultOf? temp = none) {fault : Fault}
    (h : t.create temp bytes = .error fault) : fault ≠ .nullCharacter := by
  unfold create at h
  -- the walk fails, or it arrives and the place refuses the file
  cases hw : t.walk true temp with
  | error cause =>
    have hcause := fault_of_walk hf hw
    simp only [hw, bind, Except.bind] at h
    obtain rfl := Except.error.inj h
    rintro rfl
    simp at hcause
  | ok place =>
    simp only [hw, bind, Except.bind] at h
    rintro rfl
    cases place <;> exact nomatch h

end FileTree

namespace Workspace

variable {w w' : Workspace} {p : NormalPath} {temp : FilePath} {bytes : Bytes} {e : StagingError}

/-- The link at `k` lies where the temporary file of the destination goes, and the directory of the
    destination is reached through it: without the link there is no such directory. -/
def LinkOnWay (w : Workspace) (p : NormalPath) (k : Location) (target : String) : Prop :=
  ∃ temp, w.staging.tempPath p = .ok temp ∧ w.tree.walk false temp = .ok (.link k target) ∧
    w.tree.isDirectory p.parent = true ∧ (w.tree.remove k).isDirectory p.parent = false

/-- What a failed write leaves as it was. -/
structure Kept (w w' : Workspace) (p : NormalPath) : Prop where
  /-- The settings and the staged files are the same. -/
  staging : w'.staging = w.staging
  here : w'.tree.here = w.tree.here
  /-- Every entry stays, unless it is a link on the way: there is nothing in its place, or a
      directory on the way. -/
  entries : ∀ k entry, w.tree.lookup k = some entry →
    w'.tree.lookup k = some entry ∨
      (∃ target, entry = .link target ∧ w.LinkOnWay p k target) ∧
        ∀ entry', w'.tree.lookup k = some entry' →
          entry' = .directory ∧ w'.tree.OnWay p.parent k
  /-- What is new is a directory on the way to the destination. -/
  new : ∀ k entry, w.tree.lookup k = none → w'.tree.lookup k = some entry →
    entry = .directory ∧ w'.tree.OnWay p.parent k

/-- A write that changes nothing keeps everything. -/
theorem Kept.refl (w : Workspace) (p : NormalPath) : Kept w w p :=
  ⟨rfl, rfl, fun _ _ h => .inl h, fun _ _ hnone h => by rw [hnone] at h; exact nomatch h⟩

/-- If a file cannot be saved where an entry was taken out, the entry was a link on the way. -/
private theorem linkOnWay_of_save_error {tree : FileTree} {k : Location} {entry : Entry}
    (htemp : w.staging.tempPath p = .ok temp) (hne : entry ≠ .directory)
    (hwalk : w.tree.walk false temp = .ok (placeOf k entry))
    (hclear : w.tree.without temp = .ok (w.tree.remove k))
    (hs : (w.tree.remove k).save p temp bytes = (.error e, tree)) :
    ∃ target, entry = .link target ∧ w.LinkOnWay p k target := by
  have hb := Staging.isBeside_of_tempPath htemp
  -- otherwise the parent would be there and the file could be written
  have hno : (w.tree.remove k).isDirectory p.parent = false := by
    by_contra hdir
    rw [Bool.not_eq_false] at hdir
    obtain ⟨saved, hsaved⟩ := create_of_isDirectory bytes hb hne hwalk hclear hdir
    rw [save, makeDirectories_of_isDirectory hdir] at hs
    simp only [hsaved] at hs
    exact nomatch (Prod.mk.inj hs).1
  have hparent := isDirectory_parent_of_walk hb hne hwalk
  -- an entry that is a directory is not taken out, and a file is on no way
  cases entry with
  | directory => exact absurd rfl hne
  | file content =>
    rw [isDirectory_of_file_removed hwalk hparent] at hno
    exact nomatch hno
  | link target => exact ⟨target, rfl, temp, htemp, hwalk, hparent, hno⟩

/-- A write that fails when it saves its file keeps all but a link on the way. -/
private theorem kept_of_save_error {cleared tree : FileTree}
    (htemp : w.staging.tempPath p = .ok temp) (hclear : w.tree.without temp = .ok cleared)
    (hs : cleared.save p temp bytes = (.error e, tree)) : Kept w { w with tree } p := by
  obtain ⟨rfl, -⟩ := save_eq_error hs
  have hadds := makeDirectories_adds cleared p.parent
  rcases without_eq_ok hclear with ⟨k, entry, hne, hwalk, rfl⟩ | ⟨rfl, -⟩
  · -- everything else is where it was, since only the entry at `k` is taken out
    have hremoved := lookup_remove_of_walk hwalk hne
    refine ⟨rfl, hadds.here_eq.trans here_remove, fun j entry' hj => ?_, fun j entry' hj hnew => ?_⟩
    · by_cases hjk : j = k
      · -- the entry that was taken out, which makes the write fail
        subst hjk
        obtain rfl : entry = entry' :=
          Option.some.inj ((entry_of_walk hwalk hne).1.symm.trans hj)
        exact .inr ⟨linkOnWay_of_save_error htemp hne hwalk hclear hs, fun entry' hnew =>
          hadds.onWay j entry' (by rw [hremoved, if_pos rfl]) hnew⟩
      · exact .inl (hadds.keeps j entry' (by rw [hremoved, if_neg hjk, hj]))
    · refine hadds.onWay j entry' ?_ hnew
      rw [hremoved, hj]
      exact ite_self _
  · -- nothing was taken out, so making directories is all that happened
    exact ⟨rfl, hadds.here_eq, fun j entry hj => .inl (hadds.keeps j entry hj), hadds.onWay⟩

/-- A file that cannot be saved is reported with its path, unless too many directories are
    missing. -/
private theorem path?_of_save_error {cleared tree : FileTree} (hb : Staging.IsBeside p temp)
    (hclear : w.tree.without temp = .ok cleared)
    (hs : cleared.save p temp bytes = (.error e, tree)) (hpath : e.path? = none) :
    e = .tooManyMissing := by
  obtain ⟨-, fault, rfl, hfault⟩ := save_eq_error hs
  have hnull : fault ≠ .nullCharacter := by
    rcases hfault with hm | hc
    · exact fault_of_makeDirectories (faultOf?_parent_of_without hb hclear) hm
    · exact fault_of_create (faultOf?_of_without hclear) hc
  -- all other faults are reported with the path
  cases fault with
  | tooManyMissing => rfl
  | nullCharacter => exact absurd rfl hnull
  | _ => exact nomatch hpath

/-- **What a failed write leaves.** Whatever the tree and whatever is staged: if a write fails, the
    staged files are what they were, and every entry of the tree is what it was, except that a link
    where the temporary file goes may be gone if the directory of the destination is reached through
    it. All that may be new are directories on the way to the destination. If the failure is not
    that of an operation on files, nothing has changed. -/
theorem failed_write_keeps {content : String} (h : w.write p content = (.error e, w')) :
    Kept w w' p ∧ (e.path? = none → e ≠ .tooManyMissing → w' = w) := by
  rcases write_outcome h with ⟨rfl, -⟩ | ⟨temp, bytes, htemp, -, hout⟩
  · exact ⟨.refl _ p, fun _ _ => rfl⟩
  · -- of the outcomes that fail only the last one changes the tree
    cases hout with
    | unread _ => exact ⟨.refl _ p, fun _ _ => rfl⟩
    | uncleared _ => exact ⟨.refl _ p, fun _ _ => rfl⟩
    | unsaved hclear hs =>
      refine ⟨kept_of_save_error htemp hclear hs, fun hpath hmissing => ?_⟩
      exact absurd (path?_of_save_error (Staging.isBeside_of_tempPath htemp) hclear hs hpath)
        hmissing

/-- A fresh writer, where `b.tmp` in the directory `d` is a link to `d`, and `a` is a link to that
    link. -/
def looped : Workspace where
  staging := .create (.text "utf-8") (.text ".tmp")
  tree :=
    ⟨[("work", .directory [("d", .directory [("b.tmp", .link ".")]), ("a", .link "d/b.tmp")])],
      ["work"]⟩

/-- The path `a/b`. -/
def throughLink : NormalPath := (NormalPath.ofPart "a").append (.ofPart "b")

/-- The temporary file of `a/b` goes where the link `d/b.tmp` lies, and `a` is reached through that
    link. -/
theorem failed_write_keeps_looped :
    looped.write throughLink "x" =
        (.error (.cannotSave ⟨.relative, ["a", "b.tmp"]⟩), (looped.write throughLink "x").2) ∧
      Kept looped (looped.write throughLink "x").2 throughLink := by
  have h : looped.write throughLink "x" =
      (.error (.cannotSave ⟨.relative, ["a", "b.tmp"]⟩), (looped.write throughLink "x").2) :=
    Prod.ext (by rfl) rfl
  exact ⟨h, (failed_write_keeps h).1⟩

/-- **A link can be lost.** The write of `a/b` fails, in a path without any `..`, and the link
    `d/b.tmp` that was there before is gone. -/
theorem failed_write_removes_link :
    throughLink.ClimbsFirst ∧
      (looped.write throughLink "x").1 = .error (.cannotSave ⟨.relative, ["a", "b.tmp"]⟩) ∧
      looped.tree.lookup ["b.tmp", "d", "work"] = some (.link ".") ∧
      (looped.write throughLink "x").2.tree.lookup ["b.tmp", "d", "work"] = none :=
  ⟨by decide, by rfl, by rfl, by rfl⟩

end Workspace

end ScriptBindings

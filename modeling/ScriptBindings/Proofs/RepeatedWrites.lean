import ScriptBindings.Proofs.StagingSteps

/-!
# Writes that are repeated

What has just been written need not be written again. The first write leaves one of three things
behind: a temporary file with the content, a destination that has the content and is not staged, or
the same for one that was staged and is no longer. Each of them is found again, also where the
destination or the temporary path goes through links.

## Key results

- `contentOf_of_create`: what is written is read, wherever links lead
- `contentOf_of_without`: without a temporary file of other content, a destination reads the same
- `writeBytes_of_staged` / `writeBytes_of_held`: what needs no writing changes nothing
- `write_twice`: the second of two equal writes changes nothing
-/

namespace ScriptBindings

open FileTree

namespace FileTree

variable {t t' cleared : FileTree} {p temp : FilePath} {bytes : Bytes} {k : Location}

/-! ## What is written is read -/

/-- A file takes the place of nothing or of another file. -/
private theorem lookup_put_of_walk {fl : Bool}
    (hstart : t.lookup (t.start p) = some .directory)
    (hplace : t.walk fl p = .ok (.vacant k) ∨ ∃ old, t.walk fl p = .ok (.file k old))
    (j : Location) :
    (t.put k (.file bytes)).lookup j = if j = k then some (.file bytes) else t.lookup j := by
  -- a walk ends in nothing or at a file in a directory that is there
  have hentry : t.lookup k ≠ some .directory ∧ k ≠ [] ∧ t.lookup k.tail = some .directory := by
    rcases hplace with hw | ⟨old, hw⟩
    · obtain ⟨hnone, hne⟩ := vacant_of_walk hw
      exact ⟨by simp [hnone], hne, directory_of_walk hstart hw⟩
    · obtain ⟨hold, hne⟩ := lookup_of_walk hw nofun
      exact ⟨by simp [show t.lookup k = some (.file old) from hold], hne,
        directory_of_walk hstart hw⟩
  obtain ⟨hno, hne, hdir⟩ := hentry
  exact lookup_put_bare (Node.isBare_file bytes) hne hdir hno j

/-- What is written to a file is read from it, also through a link. -/
theorem contentOf_of_create (hstart : t.lookup (t.start p) = some .directory)
    (h : t.create p bytes = .ok t') : t'.contentOf p = .ok (some bytes) := by
  obtain ⟨k, hplace, rfl⟩ := create_eq_ok.mp h
  have hput (j : Location) :
      (t.put k (.file bytes)).lookup j = if j = k then some (.file bytes) else t.lookup j :=
    lookup_put_of_walk hstart hplace j
  -- neither a directory nor a link is overwritten, so all ways stay
  have hk : t.lookup k ≠ some .directory ∧ ∀ target, t.lookup k ≠ some (.link target) := by
    rcases hplace with hw | ⟨old, hw⟩
    · simp [(vacant_of_walk hw).1]
    · simp [show t.lookup k = some (.file old) from (lookup_of_walk hw nofun).1]
  have hways : KeepsWays t (t.put k (.file bytes)) := by
    constructor
    · intro j hj
      rw [hput, if_neg (by rintro rfl; exact hk.1 hj), hj]
    · intro j target hj
      rw [hput, if_neg (by rintro rfl; exact hk.2 target hj), hj]
  have hfile : (t.put k (.file bytes)).lookup k = some (.file bytes) := by rw [hput, if_pos rfl]
  rw [contentOf_eq_some]
  -- the walk that found the place finds the file there now
  rcases hplace with hw | ⟨old, hw⟩
  · exact ⟨k, walk_filled hways (here_put _) hw (.inl rfl) hfile nofun⟩
  · exact ⟨k, walk_filled hways (here_put _) hw (.inr ⟨old, rfl⟩) hfile nofun⟩

/-- What is saved is read at the temporary path. -/
theorem contentOf_of_save (hstart : t.lookup (t.start temp) = some .directory)
    (h : t.save p temp bytes = (.ok (), t')) : t'.contentOf temp = .ok (some bytes) := by
  obtain ⟨grown, hm, hc⟩ := save_eq_ok h
  -- making directories adds some and keeps the others
  have hadds : AddsDirectories t grown p.parent := by
    have := makeDirectories_adds t p.parent
    rwa [hm] at this
  refine contentOf_of_create ?_ hc
  rw [start_of_here hadds.here_eq]
  exact hadds.keeps _ _ hstart

/-! ## What is read without a temporary file -/

/-- The link at a temporary path leads to the content that is read there, or to nothing, for any
    number of links that may still be followed. -/
private theorem place_of_link {target : String} {staged : Option Bytes}
    (hw : t.walk false temp = .ok (.link k target)) (hs : t.contentOf temp = .ok staged) {m : Nat}
    {place : Place}
    (h : walkLinks t true m (linkBase target k.tail) (targetNames target) = .ok place) :
    (∃ j content, staged = some content ∧ place = .file j content) ∨ ∃ j, place = .vacant j := by
  have hf := faultOf?_of_walk hw
  obtain ⟨links, hlinks⟩ := walkLinks_true_of_link (walk_eq hf ▸ hw)
  -- what is read at the temporary path is read where its link leads
  have hread := contentOf_eq_ok hs
  simp only [read_eq_ok, read_eq_missing, walk_eq hf, hlinks] at hread
  cases links with
  | zero => simp [leap] at hread
  | succ links =>
    simp only [leap] at hread
    -- neither walk runs out of links, so both lead to the same place
    have hlead : walkLinks t true links (linkBase target k.tail) (targetNames target) ≠
        .error .tooManyLinks := by
      rcases hread with ⟨content, -, j, hj⟩ | ⟨-, hj | ⟨j, hj⟩⟩
      · simp [hj]
      · simp [hj]
      · simp [hj]
    rw [walkLinks_links hlead (m := m) (by simp [h]), h] at hread
    -- so this walk leads where the one of the reading does
    rcases hread with ⟨content, hstaged, j, hj⟩ | ⟨-, hj | ⟨j, hj⟩⟩
    · exact .inl ⟨j, content, hstaged, Except.ok.inj hj⟩
    · cases hj
    · exact .inr ⟨j, Except.ok.inj hj⟩

/-- A destination reads the same when a temporary file with other content is taken out. The way to
    what is read there does not go through the temporary path, where a link would have to lead to a
    directory or to that content. -/
theorem contentOf_of_without {staged : Option Bytes} (hs : t.contentOf temp = .ok staged)
    (hne : staged ≠ some bytes) (hp : t.contentOf p = .ok (some bytes))
    (h : t.without temp = .ok cleared) : cleared.contentOf p = .ok (some bytes) := by
  obtain ⟨j, hj⟩ := contentOf_eq_some.mp hp
  -- a file that is taken out is not the one that is read, and a link is not on the way to it
  rcases without_eq_ok h with ⟨k, e, hdir, hw, rfl⟩ | ⟨rfl, -⟩
  · have hremoved := lookup_remove_of_walk hw hdir
    have hk := (entry_of_walk hw hdir).1
    refine contentOf_eq_some.mpr ⟨j, ?_⟩
    cases e with
    | directory => exact absurd rfl hdir
    | file content =>
      -- the file that is taken out is not the one that is read
      have hcontent : t.contentOf temp = .ok (some content) := by
        refine contentOf_eq_some.mpr ⟨k, ?_⟩
        rw [walk_true_of_false (by simp [hw, placeOf]), hw]
        rfl
      have hfile : t.lookup j = some (.file bytes) := (lookup_of_walk hj (by simp)).1
      have hjk : j ≠ k := by
        rintro rfl
        rw [hk] at hfile
        obtain rfl : content = bytes := by simpa using hfile
        rw [hcontent] at hs
        exact hne (Except.ok.inj hs).symm
      refine walk_mono (t := t) ⟨fun i hi => ?_, fun i target hi => ?_⟩ here_remove hj fun _ => ?_
      · rw [hremoved, if_neg (by rintro rfl; rw [hk] at hi; cases hi), hi]
      · rw [hremoved, if_neg (by rintro rfl; rw [hk] at hi; cases hi), hi]
      · show (t.remove k).lookup j = some (.file bytes)
        rw [hremoved, if_neg hjk, hfile]
    | link target =>
      have hf := faultOf?_of_walk hj
      rw [walk_eq hf] at hj ⊢
      rw [start_of_here here_remove]
      -- the link does not lead to what is read, which `walkLinks_around` asks for
      refine walkLinks_around hk (fun i hi => by rw [hremoved, if_neg hi]) (fun m other hm => ?_) hj
      rcases place_of_link hw hs hm with ⟨i, content, rfl, rfl⟩ | ⟨i, rfl⟩
      · refine ⟨?_, by simp⟩
        rintro heq
        obtain ⟨-, rfl⟩ := Place.file.inj heq
        exact hne rfl
      · simp
  · -- nothing was taken out
    exact hp

end FileTree

/-! ## The second write -/

namespace Workspace

variable {w w' : Workspace} {p : NormalPath} {temp : FilePath} {bytes : Bytes} {content : String}
  {b : Bool}

/-- Bytes that a destination is staged with are not written again. -/
theorem writeBytes_of_staged (hp : w.staging.pending.contains p = true)
    (h : w.tree.contentOf temp = .ok (some bytes)) :
    w.writeBytes p temp bytes = (.ok false, w) := by
  have hstaged : w.isStaged p temp bytes = .ok true := by
    simp only [isStaged, hp, if_true, h, bind, Except.bind, pure, Except.pure, beq_self_eq_true]
  simp only [writeBytes, hstaged]

/-- Bytes that a destination holds are not written if it is not staged. -/
theorem writeBytes_of_held (hp : w.staging.pending.contains p = false)
    (h : w.tree.contentOf p = .ok (some bytes)) :
    w.writeBytes p temp bytes = (.ok false, w) := by
  simp [writeBytes, isStaged, revert, hp, h]

/-- A staged destination is written to only if its staged file can be read. -/
private theorem exists_contentOf_of_writeBytes (hp : w.staging.pending.contains p = true)
    (h : w.writeBytes p temp bytes = (.ok b, w')) :
    ∃ staged, w.tree.contentOf temp = .ok staged := by
  cases hread : w.tree.contentOf temp with
  | ok staged => exact ⟨staged, rfl⟩
  | error e =>
    -- the staged file is read before anything else is done
    have hstaged : w.isStaged p temp bytes = .error e := by
      simp only [isStaged, hp, if_true, hread, bind, Except.bind]
    simp only [writeBytes, hstaged] at h
    cases (Prod.mk.inj h).1

/-- The second of two equal writings of bytes changes nothing. -/
private theorem writeBytes_twice (hstart : w.tree.lookup (w.tree.start temp) = some .directory)
    (h : w.writeBytes p temp bytes = (.ok b, w')) :
    w'.writeBytes p temp bytes = (.ok false, w') := by
  generalize hr : Except.ok b = r at h
  -- by what the first write has left
  cases writeBytes_outcome h with
  | unread _ => exact nomatch hr
  | uncleared _ => exact nomatch hr
  | unsaved _ _ => exact nomatch hr
  | staged hp ht => exact writeBytes_of_staged hp ht
  | held hp hd => exact writeBytes_of_held hp hd
  | reverted hp hd hw =>
    obtain ⟨staged, hs⟩ := exists_contentOf_of_writeBytes hp (hr ▸ h)
    have hnone : (w.unstage p).staging.pending.contains p = false := by
      simp [unstage, Table.contains, Table.get?_erase]
    by_cases hbytes : staged = some bytes
    · -- the first write would have found these bytes staged
      rw [writeBytes_of_staged hp (hbytes ▸ hs)] at h
      have hpending := congrArg (fun w : Workspace => w.staging.pending.contains p)
        (Prod.mk.inj h).2
      simp [hp, hnone] at hpending
    · exact writeBytes_of_held hnone (contentOf_of_without hs hbytes hd hw)
  -- the first write has staged the bytes, which are read at the temporary path now
  | saved ht hd hne hw hs =>
    refine writeBytes_of_staged (by simp [Table.contains, Table.get?_insert])
      (contentOf_of_save ?_ hs)
    obtain ⟨hcleared, hlookup⟩ := lookup_without hw
    rw [start_of_here hcleared]
    rcases hlookup (w.tree.start temp) with heq | ⟨-, e, -, he, hdir⟩
    · rw [heq, hstart]
    · -- only what is no directory has been taken out
      rw [hstart] at he
      exact absurd (Option.some.inj he).symm hdir

/-- **The second of two equal writes changes nothing**, whatever lies in the tree, whatever is
    staged and wherever the path leads: if a write succeeds and is made again at once, the second
    one answers that nothing was staged and leaves the staged files and all entries as they are. The
    path has to start at a directory: absolute ones do, and others if the working directory is
    there. -/
theorem write_twice (hstart : w.tree.lookup (w.tree.start p) = some .directory)
    (h : w.write p content = (.ok b, w')) : w'.write p content = (.ok false, w') := by
  rcases write_outcome h with ⟨-, e, he, -⟩ | ⟨temp, bytes, htemp, henc, hout⟩
  · exact nomatch he
  · -- the settings stay, so the second write has the same temporary path and bytes
    obtain ⟨hsuffix, hencoding⟩ := hout.settings
    have hfirst : w.writeBytes p temp bytes = (.ok b, w') := by
      simpa only [write, htemp, henc] using h
    have htemp' := (Staging.tempPath_of_suffix hsuffix p).trans htemp
    have henc' := (Staging.encode_of_encoding hencoding content).trans henc
    simp only [write, htemp', henc']
    have hroot : w.tree.start temp = w.tree.start p := by
      obtain ⟨suffix, name, -, -, rfl, -⟩ := Staging.tempPath_eq_ok htemp
      rfl
    exact writeBytes_twice (hroot ▸ hstart) hfirst

/-- A writer that has staged `l`, where `l` is a link to the file `f`, and its temporary file a link
    to the file `g`. -/
def stagedThroughLinks : Workspace where
  staging :=
    ⟨.text "utf-8", .text ".tmp", .ofList [(.ofPart "l", ⟨.relative, ["l.tmp"]⟩)]⟩
  tree :=
    ⟨[("work", .directory [("l", .link "f"), ("l.tmp", .link "g"), ("f", .file [120]),
      ("g", .file [121])])], ["work"]⟩

/-- The file `f` has the content already, so the first write of `l` takes out the link at the
    temporary path, and the second one finds nothing to do. -/
theorem write_twice_stagedThroughLinks :
    let again := (stagedThroughLinks.write (.ofPart "l") "x").2
    stagedThroughLinks.tree.lookup (stagedThroughLinks.tree.start (NormalPath.ofPart "l")) =
        some .directory ∧
      stagedThroughLinks.write (.ofPart "l") "x" = (.ok false, again) ∧
      again.tree.lookup ["l.tmp", "work"] = none ∧
      again.write (.ofPart "l") "x" = (.ok false, again) := by
  have h : stagedThroughLinks.write (.ofPart "l") "x" =
      (.ok false, (stagedThroughLinks.write (.ofPart "l") "x").2) := Prod.ext (by rfl) rfl
  exact ⟨by rfl, h, by rfl, write_twice (by rfl) h⟩

end Workspace

end ScriptBindings

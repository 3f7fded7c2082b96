import ScriptBindings.Proofs.StagingSteps

/-!
# Plain paths

Paths that start at the working directory and only go down, in trees where no link lies on the way.
Such a path stands for one location, whatever else the tree holds, so the operations on files are
described by the entries that they change.

## Key results

- `walk_plain`: a walk ends at the location of the path, if it ends anywhere
- `contentOf_plain`: what is read is what lies at the location
- `without_plain` / `save_plain` / `rename_plain`: the entries after an operation
- `tempPath_plain`: where a file could be written, the temporary path is plain too
-/

namespace ScriptBindings

open FileTree

namespace FilePath

/-- The path starts at the working directory and only goes down, through single names. -/
structure IsPlain (p : FilePath) : Prop where
  relative : p.root = .relative
  normal : p.IsNormal
  down : ".." ∉ p.parts

/-- Plain paths with the same parts are the same. -/
theorem IsPlain.ext {p q : FilePath} (hp : p.IsPlain) (hq : q.IsPlain) (h : p.parts = q.parts) :
    p = q := by
  obtain ⟨root, parts⟩ := p
  obtain ⟨root', parts'⟩ := q
  obtain rfl : root = .relative := hp.relative
  obtain rfl : root' = .relative := hq.relative
  obtain rfl : parts = parts' := h
  rfl

/-- A plain path goes through names of entries, apart from their length. -/
theorem IsPlain.ne_dots {p : FilePath} (h : p.IsPlain) {name : String} (hname : name ∈ p.parts) :
    name ≠ "." ∧ name ≠ ".." := by
  constructor
  · rintro rfl
    simpa [isIdle] using (h.normal _ hname).1
  · rintro rfl
    exact h.down hname

end FilePath

namespace NormalPath

/-- The path starts at the working directory and only goes down. -/
structure IsPlain (p : NormalPath) : Prop where
  relative : p.root = .relative
  down : ".." ∉ p.parts

instance (p : NormalPath) : Decidable p.IsPlain :=
  decidable_of_iff (p.root = .relative ∧ ".." ∉ p.parts)
    ⟨fun ⟨hr, hd⟩ => ⟨hr, hd⟩, fun h => ⟨h.relative, h.down⟩⟩

/-- A plain path in normal form is one among all paths. -/
theorem IsPlain.toFilePath {p : NormalPath} (h : p.IsPlain) : p.toFilePath.IsPlain :=
  ⟨h.relative, p.normal, h.down⟩

end NormalPath

namespace FileTree

variable {t t' : FileTree} {fl : Bool} {p : FilePath} {k : Location}

/-- The location that a plain path stands for. -/
def locate (t : FileTree) (p : FilePath) : Location :=
  p.parts.reverse ++ t.here

/-- The bytes of the regular file that a plain path stands for, if there is one. -/
def bytesAt (t : FileTree) (p : FilePath) : Option Bytes :=
  match t.lookup (t.locate p) with
  | some (.file bytes) => some bytes
  | _ => none

/-- There is no link at the location, nor on the way to it. -/
def IsLinkless (t : FileTree) (k : Location) : Prop :=
  ∀ j, j <:+ k → ∀ target, t.lookup j ≠ some (.link target)

theorem locate_of_here (h : t'.here = t.here) (p : FilePath) : t'.locate p = t.locate p := by
  unfold locate; rw [h]

/-- Plain paths that stand for the same location are the same. -/
theorem locate_inj {q : FilePath} (hp : p.IsPlain) (hq : q.IsPlain) (h : t.locate p = t.locate q) :
    p = q := by
  refine hp.ext hq ?_
  -- the locations have the working directory behind the parts
  have := List.append_cancel_right h
  simpa using this

theorem bytesAt_eq_some {bytes : Bytes} :
    t.bytesAt p = some bytes ↔ t.lookup (t.locate p) = some (.file bytes) := by
  unfold bytesAt
  split
  · rename_i content h
    simp [h]
  · rename_i hno
    simp only [reduceCtorEq, false_iff]
    exact hno bytes

/-- The bytes at a path depend on its entry only. -/
theorem bytesAt_congr (hh : t'.here = t.here)
    (h : t'.lookup (t.locate p) = t.lookup (t.locate p)) : t'.bytesAt p = t.bytesAt p := by
  rw [bytesAt, locate_of_here hh, h, bytesAt]

theorem isLinkless_nil : t.IsLinkless [] := by
  -- the root is no link
  intro j hj target h
  rw [List.suffix_nil.mp hj] at h
  exact nomatch h

/-- A way without links is looked at name by name. -/
theorem isLinkless_cons {name : String} :
    t.IsLinkless (name :: k) ↔
      (∀ target, t.lookup (name :: k) ≠ some (.link target)) ∧ t.IsLinkless k := by
  simp [IsLinkless, List.suffix_cons_iff, or_imp, forall_and]

/-- Whether an entry is a link. -/
def isLink : Entry → Bool
  | .link _ => true
  | _ => false

theorem any_isLink_eq_false {e : Option Entry} :
    e.any isLink = false ↔ ∀ target, e ≠ some (.link target) := by
  cases e with
  | none => simp
  | some e => cases e <;> simp [isLink]

instance decidableIsLinkless (t : FileTree) : (k : Location) → Decidable (t.IsLinkless k)
  | [] => isTrue isLinkless_nil
  | name :: k =>
    have := decidableIsLinkless t k
    decidable_of_iff ((t.lookup (name :: k)).any isLink = false ∧ t.IsLinkless k)
      ((and_congr_left' any_isLink_eq_false).trans isLinkless_cons.symm)

/-- Where no links are added, a way without links stays so. -/
theorem IsLinkless.mono (h : t.IsLinkless k)
    (hlinks : ∀ j target, t'.lookup j = some (.link target) → t.lookup j = some (.link target)) :
    t'.IsLinkless k :=
  fun j hj target he => h j hj target (hlinks j target he)

/-- The path is plain, the working directory is there, and no link is on the way. -/
structure IsClear (t : FileTree) (p : FilePath) : Prop where
  plain : p.IsPlain
  here : t.lookup t.here = some .directory
  linkless : t.IsLinkless (t.locate p)

/-- A path stays clear while the working directory stays and no links are added. -/
theorem IsClear.mono (h : t.IsClear p) (hh : t'.here = t.here)
    (hd : t'.lookup t.here = some .directory)
    (hl : ∀ j target, t'.lookup j = some (.link target) → t.lookup j = some (.link target)) :
    t'.IsClear p := by
  refine ⟨h.plain, by rw [hh, hd], ?_⟩
  rw [locate_of_here hh]
  exact h.linkless.mono hl

/-! ## Walks -/

/-- Where there is no link on the way, a walk ends where the names lead, or finds nothing there. -/
private theorem walkLinks_plain {n : Nat} {at_ : Location} {names : List String}
    (hnames : ∀ name ∈ names, name ≠ "." ∧ name ≠ "..") (hat : t.lookup at_ = some .directory)
    (hl : t.IsLinkless (names.reverse ++ at_)) :
    (∀ place, walkLinks t fl n at_ names = .ok place →
        place.location = names.reverse ++ at_ ∧ t.lookup place.location = place.entry?) ∧
      (walkLinks t fl n at_ names = .error .missing → t.lookup (names.reverse ++ at_) = none) := by
  -- along the names, with the location that has been reached
  induction names generalizing at_ with
  | nil => simpa [Place.location, Place.entry?] using hat
  | cons name names ih =>
    obtain ⟨hdot, hup⟩ := hnames name List.mem_cons_self
    have hrest : ∀ x ∈ names, x ≠ "." ∧ x ≠ ".." := fun x hx =>
      hnames x (List.mem_cons_of_mem _ hx)
    have hloc : (name :: names).reverse ++ at_ = names.reverse ++ (name :: at_) := by simp
    rw [hloc] at hl ⊢
    have hsuffix : (name :: at_) <:+ names.reverse ++ (name :: at_) := List.suffix_append _ _
    -- the walk fails here for another reason than that something is missing
    by_cases hlong : maxNameBytes < name.utf8ByteSize
    · rw [walkLinks_long hdot hup hlong]
      simp
    have hname : IsEntryName name := ⟨hdot, hup, Nat.not_lt.mp hlong⟩
    cases he : t.lookup (name :: at_) with
    | none =>
      rw [walkLinks_none hname he]
      -- nothing is here, so the walk ends here or the way is missing
      refine ⟨fun place h => ?_, fun _ => ?_⟩
      · split at h
        · rename_i hnil
          obtain rfl := Except.ok.inj h
          subst hnil
          exact ⟨rfl, he⟩
        · simp at h
      · by_cases hnil : names = []
        · subst hnil
          exact he
        · -- what the names would lead to lies below what is not there
          exact lookup_eq_none_of_suffix (by simp [he]) hsuffix (by simpa using hnil)
    | some e =>
      cases e with
      | directory =>
        rw [walkLinks_directory hname he]
        exact ih hrest he hl
      | file content =>
        rw [walkLinks_file hname he]
        -- a file ends the walk, or is taken for a directory in vain
        refine ⟨fun place h => ?_, fun h => ?_⟩
        · split at h
          · rename_i hnil
            obtain rfl := Except.ok.inj h
            subst hnil
            exact ⟨rfl, he⟩
          · simp at h
        · split at h <;> simp at h
      | link target => exact absurd he (hl _ hsuffix target)

/-- The names of a plain path are walked from the working directory. -/
private theorem walk_eq_of_plain (hp : p.IsPlain) (hf : faultOf? p = none) :
    t.walk fl p = walkLinks t fl maxLinks t.here p.parts := by
  rw [walk_eq hf, hp.normal.names_eq, start, if_pos hp.relative]

/-- A walk along a plain path ends at its location, if it ends anywhere. -/
theorem walk_plain (hp : t.IsClear p) {place : Place} (h : t.walk fl p = .ok place) :
    place.location = t.locate p ∧ t.lookup (t.locate p) = place.entry? := by
  -- the walk along the path is that along its names, which has no link to follow
  rw [walk_eq_of_plain hp.plain (faultOf?_of_walk h)] at h
  obtain ⟨hk, he⟩ := (walkLinks_plain (fun _ => hp.plain.ne_dots) hp.here hp.linkless).1 place h
  exact ⟨hk, by rw [← he, hk]; rfl⟩

/-- Where a walk along a plain path finds nothing there is nothing. -/
theorem walk_plain_missing (hp : t.IsClear p) (h : t.walk fl p = .error .missing) :
    t.lookup (t.locate p) = none := by
  rw [walk_eq_of_plain hp.plain (faultOf?_of_walk_missing h)] at h
  exact (walkLinks_plain (fun _ => hp.plain.ne_dots) hp.here hp.linkless).2 h

/-- What a plain path leads to lies in a directory. -/
theorem directory_of_walk_plain (hp : t.IsClear p) {place : Place} (h : t.walk fl p = .ok place) :
    t.lookup (t.locate p).tail = some .directory := by
  have hstart : t.lookup (t.start p) = some .directory := by
    rw [start, if_pos hp.plain.relative]
    exact hp.here
  -- the walk starts in the working directory, which is there
  rw [← (walk_plain hp h).1]
  exact directory_of_walk hstart h

/-- Where a temporary path leads to what is no directory, it is plain if its destination is. -/
theorem tempPath_plain {s : Staging} {p : NormalPath} {temp : FilePath} (hp : p.IsPlain)
    (htemp : s.tempPath p = .ok temp) {place : Place} (h : t.walk fl temp = .ok place)
    (hd : ∀ d, place ≠ .directory d) : temp.IsPlain := by
  obtain ⟨suffix, part, -, hparts, rfl, hone, hlast⟩ := Staging.tempPath_eq_ok htemp
  -- the last part goes through one name, and has no slash around it
  obtain ⟨name, ⟨i, hpieces⟩, hname⟩ := isNamed_of_walk hone h hd
  have hmem : ∀ x, x ∈ p.parent.parts ∨ x = part → x ∈ p.parts := by
    intro x hx
    rw [hparts]
    simpa using hx
  obtain ⟨hidle, hslash⟩ := p.normal part (hmem part (.inr rfl))
  have hnone := FilePath.slash_not_mem_of_singleName hidle hslash hpieces hlast
  have hne : part ++ suffix ≠ "" := by
    intro hempty
    rw [hempty] at hone
    exact nomatch hone
  -- the last part is the name itself
  rw [FilePath.piecesOf_of_not_mem hne hnone] at hpieces
  obtain rfl : part ++ suffix = name := by
    have := congrArg List.getLast? hpieces
    simpa using this
  refine ⟨hp.relative, fun x hx => ?_, fun hup => ?_⟩
  · -- the parts are those of the destination, apart from the last one
    rcases List.mem_append.mp hx with hx | hx
    · exact p.normal x (hmem x (.inl hx))
    · obtain rfl := List.mem_singleton.mp hx
      refine ⟨?_, hnone⟩
      have hdot : (part ++ suffix).toList ≠ ['.'] := fun hdot =>
        hname.1 (String.toList_inj.mp hdot)
      have hempty : (part ++ suffix).toList ≠ [] := fun hnil => hne (String.toList_inj.mp hnil)
      simp only [FilePath.isIdle, hempty, hdot, or_self, decide_false]
  · -- the name of an entry is no way up
    rcases List.mem_append.mp hup with hup | hup
    · exact hp.down (hmem _ (.inl hup))
    · exact hname.2.1 (List.mem_singleton.mp hup).symm

/-! ## Operations -/

/-- What is read along a plain path is what lies at its location. -/
theorem contentOf_plain (hp : t.IsClear p) {held : Option Bytes} (h : t.contentOf p = .ok held) :
    held = t.bytesAt p := by
  -- the file is there, or it is missing
  rcases contentOf_eq_ok h with ⟨content, rfl, hread⟩ | ⟨rfl, hread⟩
  · obtain ⟨k, hw⟩ := read_eq_ok.mp hread
    obtain ⟨-, he⟩ := walk_plain hp hw
    exact (bytesAt_eq_some.mpr he).symm
  · have hnone : t.lookup (t.locate p) = none := by
      rcases read_eq_missing.mp hread with hw | ⟨k, hw⟩
      · exact walk_plain_missing hp hw
      · exact (walk_plain hp hw).2
    rw [bytesAt, hnone]

/-- A tree that differs from another one at one location, and in directories that are new. -/
structure DiffersAt (t t' : FileTree) (s : Location) : Prop where
  here_eq : t'.here = t.here
  same : ∀ k, k ≠ s → t'.lookup k = t.lookup k ∨
    (t.lookup k = none ∧ t'.lookup k = some .directory)
  no_link : ∀ target, t'.lookup s ≠ some (.link target)

theorem DiffersAt.trans {t₁ t₂ t₃ : FileTree} {s : Location} (h : DiffersAt t₁ t₂ s)
    (h' : DiffersAt t₂ t₃ s) : DiffersAt t₁ t₃ s := by
  refine ⟨h'.here_eq.trans h.here_eq, fun k hk => ?_, h'.no_link⟩
  -- what is the same in the first step the second one changes, and a new directory stays
  rcases h.same k hk with h₁ | ⟨hnone, h₁⟩
  · rw [← h₁]
    exact h'.same k hk
  · rcases h'.same k hk with h₂ | ⟨h₂, -⟩
    · exact .inr ⟨hnone, h₂.trans h₁⟩
    · rw [h₁] at h₂
      exact nomatch h₂

/-- No links are added. -/
theorem DiffersAt.link {s : Location} (h : DiffersAt t t' s) {target : String}
    (hk : t'.lookup k = some (.link target)) : t.lookup k = some (.link target) := by
  by_cases hks : k = s
  · subst hks
    exact absurd hk (h.no_link target)
  · rcases h.same k hks with hsame | ⟨-, hdir⟩
    · rw [← hsame, hk]
    · rw [hdir] at hk
      exact nomatch hk

/-- The files elsewhere are the same. -/
theorem DiffersAt.bytesAt {s : Location} (h : DiffersAt t t' s) (hk : t.locate p ≠ s) :
    t'.bytesAt p = t.bytesAt p := by
  -- a new directory is no file, and nothing was there before
  rcases h.same _ hk with hsame | ⟨hnone, hdir⟩
  · exact bytesAt_congr h.here_eq hsame
  · rw [FileTree.bytesAt, locate_of_here h.here_eq, hdir, FileTree.bytesAt, hnone]

/-- Taking out what lies at a plain path changes its entry only. -/
theorem without_plain (hp : t.IsClear p) (h : t.without p = .ok t') :
    DiffersAt t t' (t.locate p) ∧ t'.lookup (t.locate p) = none := by
  have hnone : t'.lookup (t.locate p) = none := by
    -- what the walk ended at has been taken out, or there was nothing
    rcases without_eq_ok h with ⟨j, e, hne, hw, rfl⟩ | ⟨rfl, hw | ⟨j, hw⟩⟩
    · obtain ⟨hj, -⟩ := walk_plain hp hw
      have hloc : (placeOf j e).location = j := by cases e <;> rfl
      rw [lookup_remove_of_walk hw hne, if_pos (by rw [← hj, hloc])]
    · exact walk_plain_missing hp hw
    · exact (walk_plain hp hw).2
  obtain ⟨hhere, hlookup⟩ := lookup_without h
  -- any other location is that of no walk along this path
  refine ⟨⟨hhere, fun k hk => ?_, fun target hlink => ?_⟩, hnone⟩
  · rcases hlookup k with hsame | ⟨-, e, hw, -⟩
    · exact .inl hsame
    · obtain ⟨hj, -⟩ := walk_plain hp hw
      exact absurd (hj ▸ by cases e <;> rfl) hk
  · rw [hnone] at hlink
    exact nomatch hlink

/-- Writing a file at a plain path changes its entry only. -/
theorem create_plain {bytes : Bytes} (hp : t.IsClear p) (h : t.create p bytes = .ok t')
    (k : Location) :
    t'.lookup k = if k = t.locate p then some (.file bytes) else t.lookup k := by
  obtain ⟨j, hwalk, rfl⟩ := create_eq_ok.mp h
  -- a file is put where there is nothing or another file
  have hplace : j = t.locate p ∧ t.lookup (t.locate p).tail = some .directory ∧
      t.lookup (t.locate p) ≠ some .directory := by
    rcases hwalk with hw | ⟨old, hw⟩
    · obtain ⟨hj, he⟩ := walk_plain hp hw
      exact ⟨hj, directory_of_walk_plain hp hw, by rw [he]; exact nofun⟩
    · obtain ⟨hj, he⟩ := walk_plain hp hw
      exact ⟨hj, directory_of_walk_plain hp hw, by rw [he]; exact nofun⟩
  obtain ⟨rfl, htail, hdir⟩ := hplace
  exact lookup_put_bare (Node.isBare_file bytes) (ne_nil_of_lookup hdir) htail hdir k

/-- Saving a file at a plain path changes its entry, and makes directories. -/
theorem save_plain {destination : FilePath} {bytes : Bytes} (hp : t.IsClear p)
    (h : t.save destination p bytes = (.ok (), t')) :
    DiffersAt t t' (t.locate p) ∧ t'.bytesAt p = some bytes := by
  obtain ⟨grown, hm, hc⟩ := save_eq_ok h
  have hadds := makeDirectories_adds t destination.parent
  rw [hm] at hadds
  -- making directories adds no links, so the path is clear in the tree with them too
  have hclear : grown.IsClear p := by
    refine hp.mono hadds.here_eq (hadds.keeps _ _ hp.here) fun j target hj => ?_
    rcases hadds.same j with hj' | ⟨-, hj'⟩
    · rw [← hj', hj]
    · rw [hj'] at hj
      exact nomatch hj
  have hcreate := create_plain hclear hc
  rw [locate_of_here hadds.here_eq] at hcreate
  have hhere : t'.here = t.here := by
    obtain ⟨j, -, rfl⟩ := create_eq_ok.mp hc
    exact (here_put _).trans hadds.here_eq
  refine ⟨⟨hhere, fun k hk => ?_, fun target hlink => ?_⟩, ?_⟩
  · rw [hcreate, if_neg hk]
    exact hadds.same k
  · rw [hcreate, if_pos rfl] at hlink
    exact nomatch hlink
  · rw [bytesAt_eq_some, locate_of_here hhere, hcreate, if_pos rfl]

/-! ## Renaming -/

section Renaming

variable {temp : FilePath} {moved : FileTree}

/-- What is renamed is a file that goes to where there is no directory, if there can be nothing but
    a file. -/
private theorem places_of_rename (ht : t.IsClear temp) (hp : t.IsClear p)
    (hfile : ∀ e, t.lookup (t.locate temp) = some e → ∃ bytes, e = .file bytes)
    (h : t.rename temp p = .ok t') :
    ∃ bytes target, (temp.namesEntry = true ∧ p.namesEntry = true) ∧
      t.walk false temp = .ok (.file (t.locate temp) bytes) ∧ t.walk false p = .ok target ∧
      (∀ k, target ≠ .directory k) ∧ t' = t.move (t.locate temp) (t.locate p) := by
  obtain ⟨hnames, source, target, hs, hd, hmove⟩ := rename_eq_ok.mp h
  obtain ⟨hsk, hse⟩ := walk_plain ht hs
  obtain ⟨hdk, -⟩ := walk_plain hp hd
  -- nothing cannot be moved, and a directory or a link is excluded
  obtain ⟨bytes, rfl⟩ : ∃ bytes, source = .file (t.locate temp) bytes := by
    cases source with
    | vacant k => exact nomatch hmove
    | file k bytes => exact ⟨bytes, by rw [show k = t.locate temp from hsk]⟩
    | directory k => obtain ⟨bytes, hb⟩ := hfile _ hse; exact nomatch hb
    | link k link => obtain ⟨bytes, hb⟩ := hfile _ hse; exact nomatch hb
  obtain ⟨hnot, rfl⟩ := moveTo_file.mp hmove
  exact ⟨bytes, target, hnames, hs, hd, hnot, by rw [hdk]⟩

/-- Renaming a file from one plain path to another takes its entry from the one to the other. Where
    there was a directory it fails. -/
theorem rename_plain (ht : t.IsClear temp) (hp : t.IsClear p)
    (hfile : ∀ e, t.lookup (t.locate temp) = some e → ∃ bytes, e = .file bytes)
    (h : t.rename temp p = .ok t') :
    ∃ bytes, t.lookup (t.locate temp) = some (.file bytes) ∧
      t.lookup (t.locate p) ≠ some .directory ∧ t'.here = t.here ∧
      ∀ k, t'.lookup k = if k = t.locate p then some (.file bytes)
        else if k = t.locate temp then none else t.lookup k := by
  obtain ⟨bytes, target, -, hs, hd, hnot, rfl⟩ := places_of_rename ht hp hfile h
  -- both walks end at the locations of their paths
  have hse : t.lookup (t.locate temp) = some (.file bytes) := (walk_plain ht hs).2
  have hsource : t.lookup (t.locate temp) ≠ some .directory := by rw [hse]; exact nofun
  have hdir : t.lookup (t.locate p) ≠ some .directory := by
    rw [(walk_plain hp hd).2]
    cases target with
    | directory k => exact absurd rfl (hnot k)
    | file k content => exact nofun
    | link k link => exact nofun
    | vacant k => exact nofun
  exact ⟨bytes, hse, hdir, here_move _, lookup_move_bare hse nofun (ne_nil_of_lookup hsource)
    (ne_nil_of_lookup hdir) (directory_of_walk_plain hp hd) hdir⟩

/-- A file that could be renamed can still be renamed while the ways to it and to the destination
    stay, and what lies there. -/
theorem rename_again (ht : t.IsClear temp) (hp : t.IsClear p) {bytes : Bytes}
    (hfile : t.lookup (t.locate temp) = some (.file bytes)) (h : t.rename temp p = .ok moved)
    (hk : KeepsWays t t') (hhere : t'.here = t.here)
    (htemp : t'.lookup (t.locate temp) = t.lookup (t.locate temp))
    (hdest : t'.lookup (t.locate p) = t.lookup (t.locate p)) :
    ∃ moved', t'.rename temp p = .ok moved' := by
  have honly : ∀ e, t.lookup (t.locate temp) = some e → ∃ bytes, e = .file bytes := fun e he =>
    ⟨bytes, Option.some.inj (he.symm.trans hfile)⟩
  obtain ⟨content, target, hnames, hs, hd, hnot, -⟩ := places_of_rename ht hp honly h
  obtain ⟨hsk, hse⟩ := walk_plain ht hs
  obtain ⟨hdk, hde⟩ := walk_plain hp hd
  -- both walks end in the other tree where they end in this one
  have hs' := walk_mono hk hhere hs fun _ => by rw [hsk, htemp, hse]
  have hd' := walk_mono hk hhere hd fun _ => by rw [hdk, hdest, hde]
  exact ⟨t'.move (t.locate temp) target.location,
    rename_eq_ok.mpr ⟨hnames, _, _, hs', hd', moveTo_file.mpr ⟨hnot, rfl⟩⟩⟩

end Renaming

end FileTree

end ScriptBindings

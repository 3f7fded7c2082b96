import ScriptBindings.Proofs.PlainPaths

/-!
# Paths that can be walked

What is known of a walk that has ended holds of the path alone: it is not too long, and neither are
its names. Along such a path, if it is plain, a walk ends wherever the tree has an entry, so the
operations on files are known to succeed.

## Key results

- `isWalkable_of_walk`: a path along which a walk has ended can be walked
- `walk_of_lookup` / `walk_of_vacant`: where a walk ends, in terms of the entries
- `contentOf_of_lookup`, `without_of_not_directory`, `save_of_vacant`: operations that succeed
-/

namespace ScriptBindings

open FileTree

namespace FilePath

/-- Nothing is wrong with the path, and its names are not too long. -/
structure IsWalkable (p : FilePath) : Prop where
  sound : faultOf? p = none
  short : ∀ name ∈ p.names, name.utf8ByteSize ≤ maxNameBytes

end FilePath

namespace FileTree

variable {t : FileTree} {fl : Bool} {p : FilePath} {bytes : Bytes}

/-- A walk that ends has gone through names that are not too long. -/
private theorem short_of_walkLinks {n : Nat} {at_ : Location} {names : List String} {place : Place}
    (h : walkLinks t fl n at_ names = .ok place) :
    ∀ name ∈ names, name.utf8ByteSize ≤ maxNameBytes := by
  -- where the walk goes on, the name has been looked at and the others come later
  induction n, at_, names using walk_induction t with
  | nil n at_ => simp
  | dot n at_ names ih =>
    exact List.forall_mem_cons.mpr ⟨by decide, ih (by simpa using h)⟩
  | up n at_ names ih =>
    exact List.forall_mem_cons.mpr ⟨by decide, ih (by simpa using h)⟩
  | long n at_ name names h₁ h₂ hlong =>
    rw [walkLinks_long h₁ h₂ hlong] at h
    exact nomatch h
  | none n at_ name names hn he =>
    rw [walkLinks_none hn he] at h
    split at h
    · rename_i hnames
      simpa [hnames] using hn.2.2
    · exact nomatch h
  | directory n at_ name names hn he ih =>
    rw [walkLinks_directory hn he] at h
    exact List.forall_mem_cons.mpr ⟨hn.2.2, ih h⟩
  | file n at_ name names content hn he =>
    rw [walkLinks_file hn he] at h
    split at h
    · rename_i hnames
      simpa [hnames] using hn.2.2
    · exact nomatch h
  | lastLink at_ name names target hn he =>
    rw [walkLinks_link hn he] at h
    split at h
    · rename_i hnames
      simpa [hnames.1] using hn.2.2
    · exact nomatch h
  | link n at_ name names target hn he ih =>
    rw [walkLinks_link hn he] at h
    split at h
    · -- the link is the end of the walk
      rename_i hnames
      simpa [hnames.1] using hn.2.2
    · -- the names behind the link come after those of its target
      have hrest := ih h
      exact List.forall_mem_cons.mpr
        ⟨hn.2.2, fun x hx => hrest x (List.mem_append_right _ hx)⟩

/-- A path along which a walk has ended, in whatever tree, can be walked. -/
theorem isWalkable_of_walk {place : Place} (h : t.walk fl p = .ok place) : p.IsWalkable := by
  have hf := faultOf?_of_walk h
  exact ⟨hf, short_of_walkLinks (walk_eq hf ▸ h)⟩

/-- A path at which a file has been read can be walked. -/
theorem isWalkable_of_contentOf (h : t.contentOf p = .ok (some bytes)) : p.IsWalkable := by
  -- a file has been read, so a walk has ended at it
  rcases contentOf_eq_ok h with ⟨content, -, hread⟩ | ⟨hnone, -⟩
  · obtain ⟨k, hwalk⟩ := read_eq_ok.mp hread
    exact isWalkable_of_walk hwalk
  · exact nomatch hnone

/-- The directory of a path that can be walked can be walked. -/
theorem isWalkable_parent (h : p.IsWalkable) : p.parent.IsWalkable := by
  obtain ⟨root, parts⟩ := p
  -- a path without parts is its own directory
  rcases List.eq_nil_or_concat parts with rfl | ⟨outer, part, rfl⟩
  · exact h
  · have hparent : FilePath.parent ⟨root, outer.concat part⟩ = ⟨root, outer⟩ := by
      simp [FilePath.parent]
    rw [List.concat_eq_append] at h
    rw [hparent]
    refine ⟨faultOf?_append h.sound, fun name hname => h.short name ?_⟩
    rw [FilePath.names_append]
    exact List.mem_append_left _ hname

/-! ## Temporary paths -/

section Temporary

variable {s : Staging} {p : NormalPath} {temp : FilePath}

/-- A temporary path lies in the directory of its destination, and neither is empty. -/
theorem parent_of_tempPath (htemp : s.tempPath p = .ok temp) :
    temp.parent = p.parent ∧ temp.parts ≠ [] ∧ p.parts ≠ [] := by
  obtain ⟨suffix, name, -, hparts, rfl, -⟩ := Staging.tempPath_eq_ok htemp
  exact ⟨by simp [FilePath.parent], by simp, by simp [hparts]⟩

/-- A destination can be walked if its temporary path can, since its last name is shorter. -/
theorem isWalkable_of_tempPath (htemp : s.tempPath p = .ok temp) (ht : temp.IsPlain)
    (hf : faultOf? p = none) (hw : temp.IsWalkable) : p.IsWalkable := by
  obtain ⟨suffix, name, -, hparts, rfl, -⟩ := Staging.tempPath_eq_ok htemp
  have hshort := hw.short
  rw [ht.normal.names_eq] at hshort
  refine ⟨hf, fun part hpart => ?_⟩
  rw [p.normal.names_eq, hparts] at hpart
  -- the name of the destination is the name of the temporary file without the suffix
  rcases List.mem_append.mp hpart with hmem | hmem
  · exact hshort part (List.mem_append_left _ hmem)
  · obtain rfl := List.mem_singleton.mp hmem
    have hlong := hshort (part ++ suffix) (by simp)
    rw [String.utf8ByteSize_append] at hlong
    omega

end Temporary

/-! ## Walks -/

/-- Where there are directories on the way, a walk ends at what lies at the end of it. -/
private theorem walkLinks_of_lookup {n : Nat} {at_ : Location} {names : List String} {e : Entry}
    (hnames : ∀ name ∈ names, IsEntryName name) (hat : t.lookup at_ = some .directory)
    (hlink : ∀ target, e ≠ .link target) (he : t.lookup (names.reverse ++ at_) = some e) :
    walkLinks t fl n at_ names = .ok (placeOf (names.reverse ++ at_) e) := by
  -- along the names; the location of the entry is the same all the way
  induction names generalizing at_ with
  | nil =>
    obtain rfl : Entry.directory = e := Option.some.inj (hat.symm.trans he)
    simp [placeOf]
  | cons name names ih =>
    have hn := hnames name List.mem_cons_self
    have hloc : (name :: names).reverse ++ at_ = names.reverse ++ (name :: at_) := by simp
    rw [hloc] at he ⊢
    -- the last name is that of the entry
    by_cases hnil : names = []
    · subst hnil
      have he' : t.lookup (name :: at_) = some e := he
      cases e with
      | directory => rw [walkLinks_directory hn he', walkLinks_nil]; rfl
      | file content => rw [walkLinks_file hn he', if_pos rfl]; rfl
      | link target => exact absurd rfl (hlink target)
    · -- more names follow, so this one is that of a directory
      have hdir : t.lookup (name :: at_) = some .directory :=
        lookup_directory_of_suffix he (List.suffix_append _ _) (by simpa using hnil)
      rw [walkLinks_directory hn hdir]
      exact ih (fun x hx => hnames x (List.mem_cons_of_mem _ hx)) hdir he

/-- The names of a plain path that can be walked are names of entries. -/
theorem isEntryName_of_plain (hp : p.IsPlain) (hw : p.IsWalkable) :
    ∀ name ∈ p.parts, IsEntryName name := by
  intro name hname
  have hne := hp.ne_dots hname
  exact ⟨hne.1, hne.2, hw.short name (by rwa [hp.normal.names_eq])⟩

/-- A walk along a plain path ends at the entry of its location. -/
theorem walk_of_lookup (hp : t.IsClear p) (hw : p.IsWalkable) {e : Entry}
    (h : t.lookup (t.locate p) = some e) : t.walk fl p = .ok (placeOf (t.locate p) e) := by
  -- a link is on no clear way
  have hlink : ∀ target, e ≠ .link target := by
    rintro target rfl
    exact hp.linkless _ (List.suffix_refl _) target h
  rw [walk_eq hw.sound, hp.plain.normal.names_eq, start, if_pos hp.plain.relative]
  exact walkLinks_of_lookup (isEntryName_of_plain hp.plain hw) hp.here hlink h

/-- The directory of a plain path lies around its location. -/
theorem locate_parent (hne : p.parts ≠ []) : t.locate p.parent = (t.locate p).tail := by
  obtain ⟨outer, part, hparts⟩ := List.eq_nil_or_concat p.parts |>.resolve_left hne
  simp [locate, FilePath.parent, hparts]

/-- The directory of a clear path is clear. -/
theorem IsClear.parent (hp : t.IsClear p) : t.IsClear p.parent := by
  -- the parts of the directory are parts of the path
  have hsub : ∀ part ∈ p.parent.parts, part ∈ p.parts :=
    fun part hpart => (List.dropLast_sublist _).subset hpart
  refine ⟨⟨hp.plain.relative, hp.plain.normal.parent, fun hup => hp.plain.down (hsub _ hup)⟩,
    hp.here, ?_⟩
  by_cases hne : p.parts = []
  · have hparent : p.parent = p := by
      obtain ⟨root, parts⟩ := p
      obtain rfl : parts = [] := hne
      rfl
    rw [hparent]
    exact hp.linkless
  · rw [locate_parent hne]
    exact fun j hj => hp.linkless j (hj.trans (List.tail_suffix _))

/-- A walk along a plain path ends in nothing where there is no entry in a directory. -/
theorem walk_of_vacant (hp : t.IsClear p) (hw : p.IsWalkable) (hne : p.parts ≠ [])
    (hd : t.lookup (t.locate p).tail = some .directory) (h : t.lookup (t.locate p) = none) :
    t.walk fl p = .ok (.vacant (t.locate p)) := by
  -- the directory can be walked to, and the last part is looked up there
  have hparent : t.walk true p.parent = .ok (.directory (t.locate p.parent)) :=
    walk_of_lookup hp.parent (isWalkable_parent hw) (by rwa [locate_parent hne])
  obtain ⟨root, parts⟩ := p
  obtain ⟨outer, part, rfl⟩ := List.eq_nil_or_concat parts |>.resolve_left hne
  have hmem : part ∈ outer.concat part := by simp
  have hname : IsEntryName part := isEntryName_of_plain hp.plain hw part hmem
  have hnamed : IsNamed part part :=
    ⟨0, FilePath.piecesOf_of_not_mem (hp.plain.normal.ne_empty hmem) (hp.plain.normal part hmem).2⟩
  have houter : FilePath.parent ⟨root, outer.concat part⟩ = ⟨root, outer⟩ := by
    simp [FilePath.parent]
  have hloc : t.locate ⟨root, outer.concat part⟩ = part :: t.locate ⟨root, outer⟩ := by
    simp [locate]
  rw [houter] at hparent
  rw [hloc] at h ⊢
  have hsound := hw.sound
  rw [List.concat_eq_append] at hsound ⊢
  exact walk_named_vacant hnamed hname hsound hparent h

/-! ## Operations that succeed -/

/-- The file at a plain path can be read. -/
theorem contentOf_of_lookup (hp : t.IsClear p) (hw : p.IsWalkable)
    (h : t.lookup (t.locate p) = some (.file bytes)) : t.contentOf p = .ok (some bytes) := by
  have hread : t.read p = .ok bytes := read_eq_ok.mpr ⟨t.locate p, walk_of_lookup hp hw h⟩
  rw [contentOf, hread]

/-- What is no directory can be taken out of the directory that it lies in, if it is there. -/
theorem without_of_not_directory (hp : t.IsClear p) (hw : p.IsWalkable) (hne : p.parts ≠ [])
    (hd : t.lookup (t.locate p).tail = some .directory)
    (h : t.lookup (t.locate p) ≠ some .directory) :
    ∃ cleared, t.without p = .ok cleared ∧ cleared.here = t.here ∧
      ∀ k, cleared.lookup k = if k = t.locate p then none else t.lookup k := by
  -- by what lies at the location; nothing, or a file
  cases he : t.lookup (t.locate p) with
  | none =>
    have hwalk : t.walk false p = .ok (.vacant (t.locate p)) := walk_of_vacant hp hw hne hd he
    refine ⟨t, by rw [without, unlink, hwalk]; rfl, rfl, fun k => ?_⟩
    split
    · rename_i hk
      rw [hk, he]
    · rfl
  | some e =>
    have hwalk : t.walk false p = .ok (placeOf (t.locate p) e) := walk_of_lookup hp hw he
    have hremoved := lookup_remove_bare (ne_nil_of_lookup h) h
    cases e with
    | directory => exact absurd he h
    | file content =>
      exact ⟨_, by rw [without, unlink, hwalk]; rfl, here_remove, hremoved⟩
    | link target => exact absurd he (hp.linkless _ (List.suffix_refl _) target)

/-- A directory at a plain path cannot be taken out. -/
theorem without_of_directory (hp : t.IsClear p) (hw : p.IsWalkable)
    (h : t.lookup (t.locate p) = some .directory) : t.without p = .error (.cannotDelete p) := by
  have hwalk : t.walk false p = .ok (.directory (t.locate p)) := walk_of_lookup hp hw h
  rw [without, unlink, hwalk]
  rfl

/-- A file can be saved where there is nothing, in a directory that is there. -/
theorem save_of_vacant (bytes : Bytes) {destination : FilePath} (hp : t.IsClear p)
    (hw : p.IsWalkable) (hne : p.parts ≠ []) (hparent : destination.parent = p.parent)
    (hd : t.lookup (t.locate p).tail = some .directory) (h : t.lookup (t.locate p) = none) :
    ∃ saved, t.save destination p bytes = (.ok (), saved) ∧ saved.here = t.here ∧
      ∀ k, saved.lookup k = if k = t.locate p then some (.file bytes) else t.lookup k := by
  -- the directory is there, so none have to be made
  have hdir : t.isDirectory p.parent = true :=
    isDirectory_iff.mpr
      ⟨_, walk_of_lookup hp.parent (isWalkable_parent hw) (by rwa [locate_parent hne])⟩
  have hcreate : t.create p bytes = .ok (t.put (t.locate p) (.file bytes)) :=
    create_eq_ok.mpr ⟨t.locate p, .inl (walk_of_vacant hp hw hne hd h), rfl⟩
  have hvacant : t.lookup (t.locate p) ≠ some .directory := by rw [h]; exact nofun
  refine ⟨t.put (t.locate p) (.file bytes), ?_, here_put _,
    lookup_put_bare (Node.isBare_file bytes) (ne_nil_of_lookup hvacant) hd hvacant⟩
  rw [save, hparent, makeDirectories_of_isDirectory hdir]
  simp only [hcreate]

end FileTree

end ScriptBindings

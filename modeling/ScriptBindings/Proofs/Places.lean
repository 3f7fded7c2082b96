import ScriptBindings.Proofs.TreeChanges
import ScriptBindings.Proofs.Walking

/-!
# What operations on files find and change

Each operation on files is a walk and a change at the place where the walk ends. This module takes
the operations apart once, so that later proofs speak of walks and entries only.

## Key results

- `lookup_of_walk`: a walk ends at what the tree holds there
- `walk_mono` / `walk_filled`: ways in a tree that grows
- `without_eq_ok`, `create_eq_ok`, `makeDirectory_eq_ok`, `read_eq_ok`: what the operations do
- `fault_of_walk`: a walk along a path that nothing is wrong with fails for few reasons
-/

namespace ScriptBindings.FileTree

variable {t t' : FileTree} {fl : Bool} {p : FilePath} {k : Location}

/-! ## Places -/

/-- A path leads to a location. A link at its end is not followed. -/
def LeadsTo (t : FileTree) (p : FilePath) (k : Location) : Prop :=
  ∃ place, t.walk false p = .ok place ∧ place.location = k

/-- A walk that does not end at a directory ends at what the tree holds there. -/
private theorem lookup_of_walkLinks {n : Nat} {at_ : Location} {names : List String} {place : Place}
    (h : walkLinks t fl n at_ names = .ok place) (hd : ∀ d, place ≠ .directory d) :
    t.lookup place.location = place.entry? ∧ place.location ≠ [] := by
  -- the walk goes on in the cases of `dot`, `up`, `directory` and `link`, and ends in the others
  induction n, at_, names using walk_induction t with
  | nil n at_ => exact absurd (by simpa using h.symm) (hd at_)
  | dot n at_ names ih => exact ih (by simpa using h)
  | up n at_ names ih => exact ih (by simpa using h)
  | long n at_ name names h₁ h₂ hlong =>
    rw [walkLinks_long h₁ h₂ hlong] at h; exact nomatch h
  | none n at_ name names hn he =>
    rw [walkLinks_none hn he] at h
    split at h
    · obtain rfl := Except.ok.inj h
      exact ⟨he, List.cons_ne_nil name at_⟩
    · exact nomatch h
  | directory n at_ name names hn he ih =>
    rw [walkLinks_directory hn he] at h
    exact ih h
  | file n at_ name names content hn he =>
    rw [walkLinks_file hn he] at h
    split at h
    · obtain rfl := Except.ok.inj h
      exact ⟨he, List.cons_ne_nil name at_⟩
    · exact nomatch h
  | lastLink at_ name names target hn he =>
    rw [walkLinks_link hn he] at h
    split at h
    · obtain rfl := Except.ok.inj h
      exact ⟨he, List.cons_ne_nil name at_⟩
    · exact nomatch h
  | link n at_ name names target hn he ih =>
    rw [walkLinks_link hn he] at h
    split at h
    · obtain rfl := Except.ok.inj h
      exact ⟨he, List.cons_ne_nil name at_⟩
    · exact ih h

/-- A walk that starts in a directory stays in directories. -/
private theorem directory_of_walkLinks {n : Nat} {at_ : Location} {names : List String}
    {place : Place} (hat : t.lookup at_ = some .directory)
    (h : walkLinks t fl n at_ names = .ok place) :
    t.lookup place.location.tail = some .directory := by
  -- the root is a directory, and so is what lies around any entry
  have htail : ∀ j, t.lookup j = some .directory → t.lookup j.tail = some .directory := by
    intro j hj
    cases j with
    | nil => exact hj
    | cons name outer => exact lookup_tail_of_lookup hj (by simp)
  induction n, at_, names using walk_induction t with
  | nil n at_ =>
    obtain rfl : Place.directory at_ = place := by simpa using h
    exact htail _ hat
  | dot n at_ names ih => exact ih hat (by simpa using h)
  | up n at_ names ih => exact ih (htail _ hat) (by simpa using h)
  | long n at_ name names h₁ h₂ hlong =>
    rw [walkLinks_long h₁ h₂ hlong] at h; exact nomatch h
  | none n at_ name names hn he =>
    rw [walkLinks_none hn he] at h
    -- nothing lies at the name, which is looked up in a directory
    split at h
    · obtain rfl := Except.ok.inj h
      exact hat
    · exact nomatch h
  | directory n at_ name names hn he ih =>
    rw [walkLinks_directory hn he] at h
    exact ih he h
  | file n at_ name names content hn he =>
    rw [walkLinks_file hn he] at h
    split at h
    · obtain rfl := Except.ok.inj h
      exact hat
    · exact nomatch h
  | lastLink at_ name names target hn he =>
    rw [walkLinks_link hn he] at h
    split at h
    · obtain rfl := Except.ok.inj h
      exact hat
    · exact nomatch h
  | link n at_ name names target hn he ih =>
    rw [walkLinks_link hn he] at h
    split at h
    · obtain rfl := Except.ok.inj h
      exact hat
    · -- the target is walked from the root or from where the link lies
      refine ih ?_ h
      unfold linkBase
      split
      · exact lookup_root t
      · exact hat

/-! ## Walks along paths -/

/-- A walk along a path that nothing is wrong with. -/
theorem walk_eq (h : faultOf? p = none) :
    t.walk fl p = walkLinks t fl maxLinks (t.start p) p.names := by
  simp only [walk, h]

/-- A path that a walk along it does not fail for. -/
theorem faultOf?_of_walk {place : Place} (h : t.walk fl p = .ok place) : faultOf? p = none := by
  unfold walk at h
  split at h
  · exact nomatch h
  · assumption

/-- Where nothing is, or is found too late, nothing is wrong with the path. -/
theorem faultOf?_of_walk_missing (h : t.walk fl p = .error .missing) : faultOf? p = none := by
  unfold walk at h
  split at h
  · -- of the faults of a path none is that of a missing file
    rename_i fault hf
    obtain rfl := Except.error.inj h
    unfold faultOf? at hf
    split at hf
    · exact nomatch hf
    · split at hf <;> exact nomatch hf
  · assumption

theorem start_of_here (h : t'.here = t.here) (p : FilePath) : t'.start p = t.start p := by
  unfold start; rw [h]

/-- A walk that does not end at a directory ends at what the tree holds there. -/
theorem lookup_of_walk {place : Place} (h : t.walk fl p = .ok place)
    (hd : ∀ d, place ≠ .directory d) :
    t.lookup place.location = place.entry? ∧ place.location ≠ [] :=
  lookup_of_walkLinks (walk_eq (faultOf?_of_walk h) ▸ h) hd

/-- A walk that ends in nothing ends at a name. -/
theorem vacant_of_walk (h : t.walk fl p = .ok (.vacant k)) : t.lookup k = none ∧ k ≠ [] :=
  lookup_of_walk h (by simp)

theorem placeOf_ne_directory {e : Entry} (hne : e ≠ .directory) (d : Location) :
    placeOf k e ≠ .directory d := by
  cases e <;> simp [placeOf] at hne ⊢

/-- What a walk ends at, if it is no directory. -/
theorem entry_of_walk {e : Entry} (h : t.walk fl p = .ok (placeOf k e)) (hne : e ≠ .directory) :
    t.lookup k = some e ∧ k ≠ [] := by
  obtain ⟨he, hk⟩ := lookup_of_walk h (placeOf_ne_directory hne)
  -- a walk does not end at an entry that is a directory
  cases e with
  | directory => exact absurd rfl hne
  | file content => exact ⟨he, hk⟩
  | link target => exact ⟨he, hk⟩

/-- Taking out what a walk ends at changes one entry. -/
theorem lookup_remove_of_walk {e : Entry} (h : t.walk fl p = .ok (placeOf k e))
    (hne : e ≠ .directory) (j : Location) :
    (t.remove k).lookup j = if j = k then none else t.lookup j := by
  obtain ⟨he, hk⟩ := entry_of_walk h hne
  exact lookup_remove_bare hk (by rw [he]; simpa using hne) j

/-- A walk that starts in a directory stays in directories. -/
theorem directory_of_walk {place : Place} (hs : t.lookup (t.start p) = some .directory)
    (h : t.walk fl p = .ok place) : t.lookup place.location.tail = some .directory :=
  directory_of_walkLinks hs (walk_eq (faultOf?_of_walk h) ▸ h)

/-- Following the last link makes no difference where a walk does not end at a link. -/
theorem walk_true_of_false (h : ∀ k target, t.walk false p ≠ .ok (.link k target)) :
    t.walk true p = t.walk false p := by
  unfold walk at h ⊢
  split
  · rfl
  · rename_i hf
    simp only [hf] at h
    exact walkLinks_true_of_false h

theorem Grows.keepsWays (h : t.Grows t') : KeepsWays t t' :=
  ⟨fun k => h.keeps k .directory, fun k target => h.keeps k (.link target)⟩

/-- A walk stays the same while directories and links stay, and what it ends at. -/
theorem walk_mono (hk : KeepsWays t t') (hh : t'.here = t.here) {place : Place}
    (h : t.walk fl p = .ok place)
    (he : (∀ d, place ≠ .directory d) → t'.lookup place.location = place.entry?) :
    t'.walk fl p = .ok place := by
  -- both walks go through the names of the path, from the same working directory
  have hf := faultOf?_of_walk h
  rw [walk_eq hf] at h ⊢
  rw [start_of_here hh]
  exact walkLinks_mono hk h he

/-- A way to a directory stays while directories and links stay. -/
theorem walk_directory_mono (hk : KeepsWays t t') (hh : t'.here = t.here) {d : Location}
    (h : t.walk fl p = .ok (.directory d)) : t'.walk fl p = .ok (.directory d) :=
  walk_mono hk hh h fun hne => absurd rfl (hne d)

/-- What is put where a walk ended in nothing or at a file is found by that walk. -/
theorem walk_filled (hk : KeepsWays t t') (hh : t'.here = t.here) {place : Place} {e : Entry}
    (h : t.walk fl p = .ok place) (hplace : place = .vacant k ∨ ∃ old, place = .file k old)
    (he : t'.lookup k = some e) (hlink : ∀ target, e ≠ .link target) :
    t'.walk fl p = .ok (placeOf k e) := by
  have hf := faultOf?_of_walk h
  rw [walk_eq hf] at h ⊢
  rw [start_of_here hh]
  exact walkLinks_filled hk h hplace he hlink

/-! ## One part further -/

section Beyond

variable {root : PathRoot} {ps : List String} {part : String}

/-- Where a path leads to a directory, one more part is walked from there. -/
theorem walk_beyond (hpart : FilePath.piecesOf part ≠ [])
    (hf : faultOf? ⟨root, ps ++ [part]⟩ = none) {d : Location}
    (h : t.walk true ⟨root, ps⟩ = .ok (.directory d)) :
    ∃ m, ∀ fl, t.walk fl ⟨root, ps ++ [part]⟩ = walkLinks t fl m d (FilePath.piecesOf part) := by
  -- the first parts have nothing wrong with them either, so their names are walked first
  rw [walk_eq (faultOf?_append hf)] at h
  obtain ⟨m, hm⟩ := walkLinks_append h
  refine ⟨m, fun fl => ?_⟩
  rw [walk_eq hf, FilePath.names_append, List.flatMap_singleton]
  exact hm fl _ hpart

/-- Where a path leads to no directory, one more part leads nowhere. -/
theorem walk_beyond_error (hpart : FilePath.piecesOf part ≠ [])
    (hf : faultOf? ⟨root, ps ++ [part]⟩ = none)
    (h : ∀ d, t.walk true ⟨root, ps⟩ ≠ .ok (.directory d)) :
    t.walk fl ⟨root, ps ++ [part]⟩ = .error (faultBeyond (t.walk true ⟨root, ps⟩)) := by
  rw [walk_eq (faultOf?_append hf)] at h ⊢
  rw [walk_eq hf, FilePath.names_append, List.flatMap_singleton]
  exact walkLinks_append_error hpart h

/-- What is walked to lies in a directory that the path without its last part leads to. -/
theorem directory_of_walk_beyond (hpart : FilePath.piecesOf part ≠ []) {place : Place}
    (h : t.walk fl ⟨root, ps ++ [part]⟩ = .ok place) :
    -- otherwise the walk could not go on to the last part
    ∃ d, t.walk true ⟨root, ps⟩ = .ok (.directory d) := by
  by_contra hno
  simp only [not_exists] at hno
  rw [walk_beyond_error hpart (faultOf?_of_walk h) hno] at h
  exact nomatch h

/-- A part that goes through one name, with dots before it. -/
def IsNamed (part name : String) : Prop :=
  ∃ i, FilePath.piecesOf part = List.replicate i "." ++ [name]

theorem IsNamed.piecesOf_ne_nil {name : String} (h : IsNamed part name) :
    FilePath.piecesOf part ≠ [] := by
  obtain ⟨i, hi⟩ := h
  simp [hi]

/-- Where a path leads to a directory, a part that goes through one name is looked up there. -/
theorem walk_beyond_named {name : String} (hpart : IsNamed part name)
    (hf : faultOf? ⟨root, ps ++ [part]⟩ = none) {d : Location}
    (h : t.walk true ⟨root, ps⟩ = .ok (.directory d)) :
    ∃ m, ∀ fl, t.walk fl ⟨root, ps ++ [part]⟩ = walkLinks t fl m d [name] := by
  obtain ⟨m, hm⟩ := walk_beyond hpart.piecesOf_ne_nil hf h
  obtain ⟨i, hi⟩ := hpart
  refine ⟨m, fun fl => ?_⟩
  rw [hm fl, hi]
  clear hi hm
  -- the dots before the name lead nowhere else
  induction i with
  | zero => rfl
  | succ i ih => rw [List.replicate_succ, List.cons_append, walkLinks_dot, ih]

/-- What ends in a dot is a directory. -/
private theorem directory_of_walkLinks_dot {n : Nat} {at_ : Location} {names : List String}
    {place : Place} (h : walkLinks t fl n at_ (names ++ ["."]) = .ok place) :
    ∃ d, place = .directory d := by
  -- what is before the dot is a directory, or the dot cannot be walked to
  by_cases hd : ∃ d, walkLinks t true n at_ names = .ok (.directory d)
  · obtain ⟨d, hd⟩ := hd
    obtain ⟨m, hm⟩ := walkLinks_append hd
    rw [hm fl ["."] (by simp), walkLinks_dot, walkLinks_nil] at h
    exact ⟨d, (Except.ok.inj h).symm⟩
  · rw [walkLinks_append_error (by simp) (not_exists.mp hd)] at h
    exact nomatch h

/-- A path that ends in a dot leads to a directory, if anywhere. -/
theorem directory_of_walk_dot {place : Place} (h : t.walk fl p = .ok place)
    (hdot : p.names.getLast? = some ".") : ∃ d, place = .directory d := by
  obtain ⟨names, hnames⟩ := List.getLast?_eq_some_iff.mp hdot
  rw [walk_eq (faultOf?_of_walk h), hnames] at h
  exact directory_of_walkLinks_dot h

/-- A single part that leads to no directory goes through the name of an entry. -/
theorem isNamed_of_walk (hpart : (FilePath.partsOf part).length = 1) {place : Place}
    (h : t.walk fl ⟨root, ps ++ [part]⟩ = .ok place) (hd : ∀ d, place ≠ .directory d) :
    ∃ name, IsNamed part name ∧ IsEntryName name := by
  -- what is not the name are dots before it, and a dot at the end would make it a directory
  have hlast : (FilePath.piecesOf part).getLast? ≠ some "." := by
    intro hdot
    obtain ⟨d, rfl⟩ := directory_of_walk_dot h (by
      rw [FilePath.names_append, List.flatMap_singleton, List.getLast?_append, hdot]
      rfl)
    exact hd d rfl
  obtain ⟨i, name, hpieces, hname⟩ := FilePath.piecesOf_singleName hpart hlast
  have hnamed : IsNamed part name := ⟨i, hpieces⟩
  refine ⟨name, hnamed, hname, ?_, ?_⟩
  · -- going up leads to a directory
    rintro rfl
    obtain ⟨d, hparent⟩ := directory_of_walk_beyond hnamed.piecesOf_ne_nil h
    obtain ⟨m, hm⟩ := walk_beyond_named hnamed (faultOf?_of_walk h) hparent
    rw [hm fl, walkLinks_up, walkLinks_nil] at h
    exact hd _ (Except.ok.inj h).symm
  · -- a name that is too long leads nowhere
    by_contra hlong
    obtain ⟨d, hparent⟩ := directory_of_walk_beyond hnamed.piecesOf_ne_nil h
    by_cases hup : name = ".."
    · subst hup
      exact hlong (by decide)
    · obtain ⟨m, hm⟩ := walk_beyond_named hnamed (faultOf?_of_walk h) hparent
      rw [hm fl, walkLinks_long hname hup (Nat.not_le.mp hlong)] at h
      simp at h

/-- A name that is looked up where there is nothing. -/
theorem walk_named_vacant {name : String} (hpart : IsNamed part name) (hname : IsEntryName name)
    (hf : faultOf? ⟨root, ps ++ [part]⟩ = none) {d : Location}
    (h : t.walk true ⟨root, ps⟩ = .ok (.directory d)) (hnone : t.lookup (name :: d) = none) :
    t.walk fl ⟨root, ps ++ [part]⟩ = .ok (.vacant (name :: d)) := by
  obtain ⟨m, hm⟩ := walk_beyond_named hpart hf h
  rw [hm fl, walkLinks_none hname hnone, if_pos rfl]

/-- A name that is looked up, without following a link, where there is something. -/
theorem walk_named_entry {name : String} (hpart : IsNamed part name) (hname : IsEntryName name)
    (hf : faultOf? ⟨root, ps ++ [part]⟩ = none) {d : Location} {e : Entry}
    (h : t.walk true ⟨root, ps⟩ = .ok (.directory d)) (he : t.lookup (name :: d) = some e) :
    t.walk false ⟨root, ps ++ [part]⟩ = .ok (placeOf (name :: d) e) := by
  obtain ⟨m, hm⟩ := walk_beyond_named hpart hf h
  rw [hm false]
  cases e with
  | directory => rw [walkLinks_directory hname he, walkLinks_nil]; rfl
  | file content => rw [walkLinks_file hname he, if_pos rfl]; rfl
  | link target => rw [walkLinks_link hname he, if_pos ⟨rfl, by simp⟩]; rfl

end Beyond

/-- The faults that a walk can end with. -/
private theorem fault_of_walkLinks {n : Nat} {at_ : Location} {names : List String} {fault : Fault}
    (h : walkLinks t fl n at_ names = .error fault) :
    fault ∈ [.missing, .notADirectory, .nameTooLong, .tooManyLinks] := by
  -- faults arise where the walk ends; in the other cases it is the one of the rest
  induction n, at_, names using walk_induction t with
  | nil n at_ => simp at h
  | dot n at_ names ih => exact ih (by simpa using h)
  | up n at_ names ih => exact ih (by simpa using h)
  | long n at_ name names h₁ h₂ hlong =>
    rw [walkLinks_long h₁ h₂ hlong] at h
    simp [← Except.error.inj h]
  | none n at_ name names hn he =>
    rw [walkLinks_none hn he] at h
    split at h
    · exact nomatch h
    · simp [← Except.error.inj h]
  | directory n at_ name names hn he ih =>
    rw [walkLinks_directory hn he] at h
    exact ih h
  | file n at_ name names content hn he =>
    rw [walkLinks_file hn he] at h
    split at h
    · exact nomatch h
    · simp [← Except.error.inj h]
  | lastLink at_ name names target hn he =>
    rw [walkLinks_link hn he] at h
    split at h
    · exact nomatch h
    · simp [← Except.error.inj h]
  | link n at_ name names target hn he ih =>
    rw [walkLinks_link hn he] at h
    split at h
    · exact nomatch h
    · exact ih h

/-- The faults of a walk along a path that nothing is wrong with. -/
theorem fault_of_walk {fault : Fault} (hf : faultOf? p = none) (h : t.walk fl p = .error fault) :
    fault ∈ [.missing, .notADirectory, .nameTooLong, .tooManyLinks] :=
  fault_of_walkLinks (walk_eq hf ▸ h)

/-! ## Operations -/

/-- What is read is what lies at the end of the path. -/
theorem read_eq_ok {content : Bytes} :
    t.read p = .ok content ↔ ∃ k, t.walk true p = .ok (.file k content) := by
  unfold read
  cases t.walk true p with
  | error fault => simp [bind, Except.bind]
  | ok place => cases place <;> simp [bind, Except.bind, pure, Except.pure, throw,
      throwThe, MonadExceptOf.throw]

/-- A file that is missing when it is read. -/
theorem read_eq_missing :
    t.read p = .error .missing ↔
      t.walk true p = .error .missing ∨ ∃ k, t.walk true p = .ok (.vacant k) := by
  unfold read
  cases t.walk true p with
  | error fault => simp [bind, Except.bind]
  | ok place => cases place <;> simp [bind, Except.bind, pure, Except.pure, throw,
      throwThe, MonadExceptOf.throw]

/-- The content of a file that is there, or nothing where it is missing. -/
theorem contentOf_eq_ok {held : Option Bytes} (h : t.contentOf p = .ok held) :
    (∃ content, held = some content ∧ t.read p = .ok content) ∨
      (held = none ∧ t.read p = .error .missing) := by
  unfold contentOf at h
  split at h
  · rename_i content hr
    exact .inl ⟨content, (Except.ok.inj h).symm, hr⟩
  · rename_i hr
    exact .inr ⟨(Except.ok.inj h).symm, hr⟩
  · exact nomatch h

/-- A file that is there is read with its content. -/
theorem contentOf_eq_some {content : Bytes} :
    t.contentOf p = .ok (some content) ↔ ∃ k, t.walk true p = .ok (.file k content) := by
  rw [← read_eq_ok, contentOf]
  cases t.read p with
  | ok held => simp
  | error fault => cases fault <;> simp

/-- Taking out what a path leads to changes the tree there, or finds nothing there. -/
theorem without_eq_ok (h : t.without p = .ok t') :
    (∃ k e, e ≠ .directory ∧ t.walk false p = .ok (placeOf k e) ∧ t' = t.remove k) ∨
      (t' = t ∧ (t.walk false p = .error .missing ∨ ∃ k, t.walk false p = .ok (.vacant k))) := by
  unfold without unlink at h
  -- a file that is missing cannot be deleted, and that is no failure
  cases hw : t.walk false p with
  | error fault =>
    simp only [hw, bind, Except.bind] at h
    split at h
    · rename_i hu; exact nomatch hu
    · -- nothing is missed where nothing is found
      rename_i hu
      exact .inr ⟨(Except.ok.inj h).symm, .inl (by rw [Except.error.inj hu])⟩
    · exact nomatch h
  | ok place =>
    simp only [hw, bind, Except.bind] at h
    cases place with
    | directory k => exact nomatch h
    | file k content => exact .inl ⟨k, .file content, nofun, rfl, (Except.ok.inj h).symm⟩
    | link k target => exact .inl ⟨k, .link target, nofun, rfl, (Except.ok.inj h).symm⟩
    | vacant k => exact .inr ⟨(Except.ok.inj h).symm, .inr ⟨k, rfl⟩⟩

/-- What cannot be taken out: a directory, or what cannot be walked to. -/
theorem without_eq_error {e : StagingError} (h : t.without p = .error e) :
    (∃ k, t.walk false p = .ok (.directory k)) ∨
      ∃ fault, fault ≠ .missing ∧ t.walk false p = .error fault := by
  unfold without unlink at h
  -- by what the walk finds; a file and a link can be deleted
  cases hw : t.walk false p with
  | error fault =>
    simp only [hw, bind, Except.bind] at h
    refine .inr ⟨fault, ?_, rfl⟩
    rintro rfl
    exact nomatch h
  | ok place =>
    simp only [hw, bind, Except.bind] at h
    cases place with
    | directory k => exact .inl ⟨k, rfl⟩
    | file k content => exact nomatch h
    | link k target => exact nomatch h
    | vacant k => exact nomatch h

/-- A file is written to where there is nothing or another file. -/
theorem create_eq_ok {content : Bytes} :
    t.create p content = .ok t' ↔
      ∃ k, (t.walk true p = .ok (.vacant k) ∨ ∃ old, t.walk true p = .ok (.file k old)) ∧
        t' = t.put k (.file content) := by
  unfold create
  cases t.walk true p with
  | error fault => simp [bind, Except.bind]
  | ok place => cases place <;> simp [bind, Except.bind, pure, Except.pure, throw,
      throwThe, MonadExceptOf.throw, eq_comm]

/-- A directory is made where there is nothing. -/
theorem makeDirectory_eq_ok :
    t.makeDirectory p = .ok t' ↔
      ∃ k, t.walk false p = .ok (.vacant k) ∧ t' = t.put k (.directory []) := by
  unfold makeDirectory
  cases t.walk false p with
  | error fault => simp [bind, Except.bind]
  | ok place => cases place <;> simp [bind, Except.bind, pure, Except.pure, throw,
      throwThe, MonadExceptOf.throw, eq_comm]

/-- Why a directory cannot be made. -/
theorem makeDirectory_eq_error {fault : Fault} (h : t.makeDirectory p = .error fault) :
    t.walk false p = .error fault ∨
      (fault = .alreadyThere ∧ ∃ k e, t.walk false p = .ok (placeOf k e)) := by
  unfold makeDirectory at h
  -- the walk fails, or something lies where it ends
  cases hw : t.walk false p with
  | error fault' =>
    simp only [hw, bind, Except.bind] at h
    exact .inl (by rw [Except.error.inj h])
  | ok place =>
    simp only [hw, bind, Except.bind] at h
    cases place with
    | directory k => exact .inr ⟨(Except.error.inj h).symm, k, .directory, rfl⟩
    | file k content => exact .inr ⟨(Except.error.inj h).symm, k, .file content, rfl⟩
    | link k target => exact .inr ⟨(Except.error.inj h).symm, k, .link target, rfl⟩
    | vacant k => exact nomatch h

/-- What is renamed is moved from where one path leads to where the other one does. -/
theorem rename_eq_ok {source target : FilePath} :
    t.rename source target = .ok t' ↔
      (source.namesEntry = true ∧ target.namesEntry = true) ∧
        ∃ s d, t.walk false source = .ok s ∧ t.walk false target = .ok d ∧
          t.moveTo s d = .ok t' := by
  unfold rename
  -- both paths must name something, and then both are walked
  by_cases hn : source.namesEntry = true ∧ target.namesEntry = true
  · cases hs : t.walk false source with
    | error fault => simp [hn, bind, Except.bind]
    | ok s =>
      cases hd : t.walk false target with
      | error fault => simp [hn, bind, Except.bind]
      | ok d => simp [hn, bind, Except.bind]
  · have hno : (source.namesEntry && target.namesEntry) = false := by simpa using hn
    simp [hno, hn, bind, Except.bind, throw, throwThe, MonadExceptOf.throw]

/-- A file goes to wherever there is no directory. -/
theorem moveTo_file {content : Bytes} {d : Place} :
    t.moveTo (.file k content) d = .ok t' ↔
      (∀ j, d ≠ .directory j) ∧ t' = t.move k d.location := by
  cases d <;> simp [moveTo, Place.location, eq_comm]

/-- Why what is found cannot be moved. -/
private theorem fault_of_moveTo {s d : Place} {fault : Fault} (h : t.moveTo s d = .error fault) :
    fault ∈ [.missing, .notADirectory, .isADirectory, .notEmpty, .withinItself] := by
  -- by what is moved, and then by what lies where it goes
  cases s with
  | vacant s => simp [← Except.error.inj h]
  | file s content =>
    cases d with
    | directory d => simp [← Except.error.inj h]
    | file d old => exact nomatch h
    | link d target => exact nomatch h
    | vacant d => exact nomatch h
  | link s link =>
    cases d with
    | directory d => simp [← Except.error.inj h]
    | file d old => exact nomatch h
    | link d target => exact nomatch h
    | vacant d => exact nomatch h
  | directory s =>
    cases d with
    | file d old => simp [← Except.error.inj h]
    | link d target => simp [← Except.error.inj h]
    | vacant d =>
      simp only [moveTo] at h
      split at h
      · simp [← Except.error.inj h]
      · exact nomatch h
    -- a directory goes to an empty one that does not lie in it
    | directory d =>
      simp only [moveTo] at h
      split at h
      · exact nomatch h
      · split at h
        · simp [← Except.error.inj h]
        · split at h
          · simp [← Except.error.inj h]
          · exact nomatch h

/-- Why something cannot be renamed, along paths that nothing is wrong with. -/
theorem fault_of_rename {source target : FilePath} {fault : Fault}
    (hs : faultOf? source = none) (ht : faultOf? target = none)
    (h : t.rename source target = .error fault) :
    fault ≠ .nullCharacter ∧ fault ≠ .tooManyMissing := by
  -- neither fault is among those of a walk or of a move
  have hwalk : ∀ {q : FilePath} {cause : Fault}, faultOf? q = none →
      t.walk false q = .error cause → cause ≠ .nullCharacter ∧ cause ≠ .tooManyMissing := by
    intro q cause hq hw
    have := fault_of_walk hq hw
    constructor <;> (rintro rfl; simp at this)
  -- in the order in which the program looks at the names, the source, the target and the move
  unfold rename at h
  by_cases hn : source.namesEntry = true ∧ target.namesEntry = true
  · cases hws : t.walk false source with
    | error cause =>
      obtain rfl : cause = fault := by simpa [hn, hws, bind, Except.bind] using h
      exact hwalk hs hws
    | ok s =>
      cases hwt : t.walk false target with
      | error cause =>
        obtain rfl : cause = fault := by simpa [hn, hws, hwt, bind, Except.bind] using h
        exact hwalk ht hwt
      | ok d =>
        have hm : t.moveTo s d = .error fault := by simpa [hn, hws, hwt, bind, Except.bind] using h
        have := fault_of_moveTo hm
        constructor <;> (rintro rfl; simp at this)
  · have hno : (source.namesEntry && target.namesEntry) = false := by simpa using hn
    obtain rfl : Fault.unnamed = fault := by
      simpa [hno, bind, Except.bind, throw, throwThe, MonadExceptOf.throw] using h
    exact ⟨nofun, nofun⟩

theorem isDirectory_iff : t.isDirectory p = true ↔ ∃ d, t.walk true p = .ok (.directory d) := by
  unfold isDirectory
  split
  · rename_i d h; simp [h]
  · rename_i h
    simp only [Bool.false_eq_true, false_iff, not_exists]
    exact h

end ScriptBindings.FileTree

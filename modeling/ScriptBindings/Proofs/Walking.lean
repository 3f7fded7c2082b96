import ScriptBindings.Proofs.PathNames

/-!
# Walks in a changing tree

Where walks along paths end, and how that depends on the tree. All inductions along a walk go
through `walk_induction`, which has one case for each thing that can lie at the next name.

## Key results

- `walkLinks_append` / `walkLinks_append_error`: a walk that goes on where another one ends
- `walkLinks_true_of_false`: following the last link matters only where there is one
- `walkLinks_true_of_link`: where there is one, the walk goes on with its target
- `walkLinks_links`: how many links may be followed matters only where a walk runs out of them
- `walkLinks_mono`: a walk stays the same while directories and links stay, and what it ends at
- `walkLinks_around`: a walk stays the same without a link that does not lead to where it ends
- `walkLinks_filled`: what is put where a walk ended in nothing or at a file is found by that walk
-/

namespace ScriptBindings.FileTree

/-! ## One step of a walk -/

/-- The location of a place. -/
def Place.location : Place → Location
  | .directory k | .file k _ | .link k _ | .vacant k => k

/-- What lies at a place. -/
def Place.entry? : Place → Option Entry
  | .directory _ => some .directory
  | .file _ content => some (.file content)
  | .link _ target => some (.link target)
  | .vacant _ => none

/-- The name of an entry: neither a dot nor two, and not too long. -/
def IsEntryName (name : String) : Prop :=
  name ≠ "." ∧ name ≠ ".." ∧ name.utf8ByteSize ≤ maxNameBytes

/-- The directory from which the target of a link in `at_` is walked. -/
def linkBase (target : String) (at_ : Location) : Location :=
  if isAbsoluteTarget target then [] else at_

/-- What a walk does at a link that it follows. -/
def leap (t : FileTree) (followLast : Bool) : Nat → Location → List String → Except Fault Place
  | 0, _, _ => .error .tooManyLinks
  | links + 1, at_, names => walkLinks t followLast links at_ names

variable {t t' : FileTree} {fl : Bool} {n : Nat} {at_ : Location} {name : String}
  {names : List String}

private theorem walkLinks_eq (t : FileTree) (fl : Bool) (n : Nat) :
    walkLinks t fl n = walkFrom t fl (leap t fl n) := by
  cases n <;> rfl

@[simp] theorem walkLinks_nil : walkLinks t fl n at_ [] = .ok (.directory at_) := by
  rw [walkLinks_eq]; rfl

@[simp] theorem walkLinks_dot :
    walkLinks t fl n at_ ("." :: names) = walkLinks t fl n at_ names := by
  simp only [walkLinks_eq, walkFrom, if_true]

@[simp] theorem walkLinks_up :
    walkLinks t fl n at_ (".." :: names) = walkLinks t fl n at_.tail names := by
  simp [walkLinks_eq, walkFrom]

/-- A name that is too long leads nowhere. -/
theorem walkLinks_long (h₁ : name ≠ ".") (h₂ : name ≠ "..")
    (h : maxNameBytes < name.utf8ByteSize) :
    walkLinks t fl n at_ (name :: names) = .error .nameTooLong := by
  simp only [walkLinks_eq, walkFrom, if_neg h₁, if_neg h₂, if_pos h]

/-- A step to where there is nothing. -/
theorem walkLinks_none (hn : IsEntryName name) (h : t.lookup (name :: at_) = none) :
    walkLinks t fl n at_ (name :: names) =
      if names = [] then .ok (.vacant (name :: at_)) else .error .missing := by
  obtain ⟨h₁, h₂, h₃⟩ := hn
  simp only [walkLinks_eq, walkFrom, if_neg h₁, if_neg h₂, if_neg (Nat.not_lt.mpr h₃), h]

/-- A step into a directory. -/
theorem walkLinks_directory (hn : IsEntryName name)
    (h : t.lookup (name :: at_) = some .directory) :
    walkLinks t fl n at_ (name :: names) = walkLinks t fl n (name :: at_) names := by
  obtain ⟨h₁, h₂, h₃⟩ := hn
  simp only [walkLinks_eq, walkFrom, if_neg h₁, if_neg h₂, if_neg (Nat.not_lt.mpr h₃), h]

/-- A step to a file. -/
theorem walkLinks_file {content : Bytes} (hn : IsEntryName name)
    (h : t.lookup (name :: at_) = some (.file content)) :
    walkLinks t fl n at_ (name :: names) =
      if names = [] then .ok (.file (name :: at_) content) else .error .notADirectory := by
  obtain ⟨h₁, h₂, h₃⟩ := hn
  simp only [walkLinks_eq, walkFrom, if_neg h₁, if_neg h₂, if_neg (Nat.not_lt.mpr h₃), h]

/-- A step to a link. -/
theorem walkLinks_link {target : String} (hn : IsEntryName name)
    (h : t.lookup (name :: at_) = some (.link target)) :
    walkLinks t fl n at_ (name :: names) =
      if names = [] ∧ ¬ fl then .ok (.link (name :: at_) target)
      else leap t fl n (linkBase target at_) (targetNames target ++ names) := by
  obtain ⟨h₁, h₂, h₃⟩ := hn
  simp only [walkLinks_eq, walkFrom, if_neg h₁, if_neg h₂, if_neg (Nat.not_lt.mpr h₃), h, linkBase]

/-- Induction along the names of a walk. Nothing is assumed where a link is met, since the
    names of its target come before those that are left. -/
private theorem names_induction (t : FileTree) {motive : Location → List String → Prop}
    (nil : ∀ at_, motive at_ [])
    (dot : ∀ at_ names, motive at_ names → motive at_ ("." :: names))
    (up : ∀ at_ names, motive at_.tail names → motive at_ (".." :: names))
    (long : ∀ at_ name names, name ≠ "." → name ≠ ".." → maxNameBytes < name.utf8ByteSize →
      motive at_ (name :: names))
    (none : ∀ at_ name names, IsEntryName name → t.lookup (name :: at_) = none →
      motive at_ (name :: names))
    (directory : ∀ at_ name names, IsEntryName name → t.lookup (name :: at_) = some .directory →
      motive (name :: at_) names → motive at_ (name :: names))
    (file : ∀ at_ name names content, IsEntryName name →
      t.lookup (name :: at_) = some (.file content) → motive at_ (name :: names))
    (link : ∀ at_ name names target, IsEntryName name →
      t.lookup (name :: at_) = some (.link target) → motive at_ (name :: names))
    (at_ : Location) (names : List String) : motive at_ names := by
  -- on the names, for all locations: going up and going down change where the rest is walked
  induction names generalizing at_ with
  | nil => exact nil at_
  | cons name names ih =>
    by_cases h₁ : name = "."
    · exact h₁ ▸ dot at_ names (ih at_)
    by_cases h₂ : name = ".."
    · exact h₂ ▸ up at_ names (ih at_.tail)
    by_cases h₃ : maxNameBytes < name.utf8ByteSize
    · exact long at_ name names h₁ h₂ h₃
    -- the name is that of an entry, so the tree is looked at
    have hn : IsEntryName name := ⟨h₁, h₂, Nat.not_lt.mp h₃⟩
    cases he : t.lookup (name :: at_) with
    | none => exact none at_ name names hn he
    | some e =>
      cases e with
      | directory => exact directory at_ name names hn he (ih (name :: at_))
      | file content => exact file at_ name names content hn he
      | link target => exact link at_ name names target hn he

/-- Induction along a walk: on the links that may still be followed, and for each number of them on
    the names that are left. -/
theorem walk_induction (t : FileTree) {motive : Nat → Location → List String → Prop}
    (nil : ∀ n at_, motive n at_ [])
    (dot : ∀ n at_ names, motive n at_ names → motive n at_ ("." :: names))
    (up : ∀ n at_ names, motive n at_.tail names → motive n at_ (".." :: names))
    (long : ∀ n at_ name names, name ≠ "." → name ≠ ".." → maxNameBytes < name.utf8ByteSize →
      motive n at_ (name :: names))
    (none : ∀ n at_ name names, IsEntryName name → t.lookup (name :: at_) = none →
      motive n at_ (name :: names))
    (directory : ∀ n at_ name names, IsEntryName name →
      t.lookup (name :: at_) = some .directory → motive n (name :: at_) names →
      motive n at_ (name :: names))
    (file : ∀ n at_ name names content, IsEntryName name →
      t.lookup (name :: at_) = some (.file content) → motive n at_ (name :: names))
    (lastLink : ∀ at_ name names target, IsEntryName name →
      t.lookup (name :: at_) = some (.link target) → motive 0 at_ (name :: names))
    (link : ∀ n at_ name names target, IsEntryName name →
      t.lookup (name :: at_) = some (.link target) →
      motive n (linkBase target at_) (targetNames target ++ names) →
      motive (n + 1) at_ (name :: names))
    (n : Nat) (at_ : Location) (names : List String) : motive n at_ names := by
  induction n generalizing at_ names with
  | zero =>
    exact names_induction t (nil 0) (dot 0) (up 0) (long 0) (none 0) (directory 0) (file 0)
      lastLink at_ names
  | succ n ih =>
    -- a link costs one of those that may be followed, whatever its target goes through
    refine names_induction t (nil (n + 1)) (dot (n + 1)) (up (n + 1)) (long (n + 1)) (none (n + 1))
      (directory (n + 1)) (file (n + 1)) (fun at_ name names target hn he => ?_) at_ names
    exact link n at_ name names target hn he (ih _ _)

/-! ## Walks that go on -/

/-- Where a walk leads to a directory, it can go on from there. The links that may still be followed
    are the same for all ways to go on. -/
theorem walkLinks_append {d : Location} {names : List String}
    (h : walkLinks t true n at_ names = .ok (.directory d)) :
    ∃ m, ∀ (fl : Bool) (rest : List String), rest ≠ [] →
      walkLinks t fl n at_ (names ++ rest) = walkLinks t fl m d rest := by
  induction n, at_, names using walk_induction t with
  | nil n at_ =>
    -- the walk is at the directory, with the links that are left now
    simp only [walkLinks_nil, Except.ok.injEq, Place.directory.injEq] at h
    exact ⟨n, fun fl rest _ => by rw [h, List.nil_append]⟩
  | dot n at_ names ih => simpa using ih (by simpa using h)
  | up n at_ names ih => simpa using ih (by simpa using h)
  | long n at_ name names h₁ h₂ hlong =>
    rw [walkLinks_long h₁ h₂ hlong] at h; exact nomatch h
  | none n at_ name names hn he =>
    rw [walkLinks_none hn he] at h
    -- in nothing and at a file the walk does not lead to a directory
    split at h <;> exact nomatch h
  | directory n at_ name names hn he ih =>
    rw [walkLinks_directory hn he] at h
    obtain ⟨m, hm⟩ := ih h
    exact ⟨m, fun fl rest hr => by rw [List.cons_append, walkLinks_directory hn he, hm fl rest hr]⟩
  | file n at_ name names content hn he =>
    rw [walkLinks_file hn he] at h
    split at h <;> exact nomatch h
  | lastLink at_ name names target hn he =>
    -- no link may be followed any more
    rw [walkLinks_link hn he] at h
    simp [leap] at h
  | link n at_ name names target hn he ih =>
    rw [walkLinks_link hn he] at h
    obtain ⟨m, hm⟩ := ih (by simpa [leap] using h)
    refine ⟨m, fun fl rest hr => ?_⟩
    -- more names follow, so the link is not the last one and is followed in any case
    have hne : ¬ (names ++ rest = [] ∧ ¬ fl = true) := by simp [hr]
    rw [List.cons_append, walkLinks_link hn he, if_neg hne, leap, ← List.append_assoc,
      hm fl rest hr]

/-- Why a walk fails that would go on where another one ends. -/
def faultBeyond : Except Fault Place → Fault
  | .error fault => fault
  | .ok (.vacant _) => .missing
  | .ok _ => .notADirectory

/-- Where a walk leads to no directory, it cannot go on. -/
theorem walkLinks_append_error {names rest : List String} (hr : rest ≠ [])
    (h : ∀ d, walkLinks t true n at_ names ≠ .ok (.directory d)) :
    walkLinks t fl n at_ (names ++ rest) = .error (faultBeyond (walkLinks t true n at_ names)) := by
  -- in each case the walk that goes on takes the same step, and fails where the shorter one ends
  induction n, at_, names using walk_induction t with
  | nil n at_ => exact absurd walkLinks_nil (h at_)
  | dot n at_ names ih => simpa using ih (by simpa using h)
  | up n at_ names ih => simpa using ih (by simpa using h)
  | long n at_ name names h₁ h₂ hlong =>
    rw [List.cons_append, walkLinks_long h₁ h₂ hlong, walkLinks_long h₁ h₂ hlong, faultBeyond]
  | none n at_ name names hn he =>
    rw [List.cons_append, walkLinks_none hn he, walkLinks_none hn he, if_neg (by simp [hr])]
    split <;> rfl
  | directory n at_ name names hn he ih =>
    rw [walkLinks_directory hn he] at h ⊢
    rw [List.cons_append, walkLinks_directory hn he, ih h]
  | file n at_ name names content hn he =>
    rw [List.cons_append, walkLinks_file hn he, walkLinks_file hn he, if_neg (by simp [hr])]
    split <;> rfl
  | lastLink at_ name names target hn he =>
    rw [List.cons_append, walkLinks_link hn he, walkLinks_link hn he, if_neg (by simp [hr]),
      if_neg (by simp)]
    rfl
  | link n at_ name names target hn he ih =>
    -- the link is followed, since the last one is too and more names follow
    rw [walkLinks_link hn he, if_neg (by simp), leap] at h ⊢
    rw [List.cons_append, walkLinks_link hn he, if_neg (by simp [hr]), leap, ← List.append_assoc,
      ih h]

/-! ## The last link -/

/-- Following the last link makes no difference where a walk does not end at a link. -/
theorem walkLinks_true_of_false
    (h : ∀ k target, walkLinks t false n at_ names ≠ .ok (.link k target)) :
    walkLinks t true n at_ names = walkLinks t false n at_ names := by
  -- only where the walk ends at a link do the two differ
  induction n, at_, names using walk_induction t with
  | nil n at_ => simp
  | dot n at_ names ih => simpa using ih (by simpa using h)
  | up n at_ names ih => simpa using ih (by simpa using h)
  | long n at_ name names h₁ h₂ hlong =>
    rw [walkLinks_long h₁ h₂ hlong, walkLinks_long h₁ h₂ hlong]
  | none n at_ name names hn he => rw [walkLinks_none hn he, walkLinks_none hn he]
  | directory n at_ name names hn he ih =>
    rw [walkLinks_directory hn he] at h ⊢
    rw [walkLinks_directory hn he, ih h]
  | file n at_ name names content hn he => rw [walkLinks_file hn he, walkLinks_file hn he]
  | lastLink at_ name names target hn he =>
    rw [walkLinks_link hn he] at h ⊢
    rw [walkLinks_link hn he]
    by_cases hnames : names = []
    · -- the walk would end at this link
      simp [hnames] at h
    · simp [hnames, leap]
  | link n at_ name names target hn he ih =>
    rw [walkLinks_link hn he] at h ⊢
    rw [walkLinks_link hn he]
    by_cases hnames : names = []
    · simp [hnames] at h
    · simp only [hnames, false_and, if_false, leap] at h ⊢
      exact ih h

/-- Where a walk ends at a link, following that link leads to where its target does. -/
theorem walkLinks_true_of_link {k : Location} {target : String}
    (h : walkLinks t false n at_ names = .ok (.link k target)) :
    ∃ m, walkLinks t true n at_ names =
      leap t true m (linkBase target k.tail) (targetNames target) := by
  induction n, at_, names using walk_induction t with
  | nil n at_ => simp at h
  | dot n at_ names ih => simpa using ih (by simpa using h)
  | up n at_ names ih => simpa using ih (by simpa using h)
  | long n at_ name names h₁ h₂ hlong =>
    rw [walkLinks_long h₁ h₂ hlong] at h; exact nomatch h
  | none n at_ name names hn he =>
    -- a walk ends at a link in the two cases of links only
    rw [walkLinks_none hn he] at h
    split at h <;> exact nomatch h
  | directory n at_ name names hn he ih =>
    rw [walkLinks_directory hn he] at h
    rw [walkLinks_directory hn he]
    exact ih h
  | file n at_ name names content hn he =>
    rw [walkLinks_file hn he] at h
    split at h <;> exact nomatch h
  | lastLink at_ name names target' hn he =>
    rw [walkLinks_link hn he] at h
    split at h
    · -- this link is the last thing on the way
      rename_i hlast
      obtain ⟨rfl, rfl⟩ : name :: at_ = k ∧ target' = target := by simpa using h
      rw [walkLinks_link hn he, if_neg (by simp), hlast.1, List.append_nil]
      exact ⟨0, rfl⟩
    · exact nomatch h
  | link n at_ name names target' hn he ih =>
    rw [walkLinks_link hn he] at h
    split at h
    · rename_i hlast
      obtain ⟨rfl, rfl⟩ : name :: at_ = k ∧ target' = target := by simpa using h
      rw [walkLinks_link hn he, if_neg (by simp), hlast.1, List.append_nil]
      exact ⟨n + 1, rfl⟩
    · -- the link that the walk ends at comes later
      rw [walkLinks_link hn he, if_neg (by simp)]
      exact ih h

/-- The number of links that may be followed matters only where a walk runs out of them. -/
theorem walkLinks_links {m : Nat} (h : walkLinks t fl n at_ names ≠ .error .tooManyLinks)
    (h' : walkLinks t fl m at_ names ≠ .error .tooManyLinks) :
    walkLinks t fl n at_ names = walkLinks t fl m at_ names := by
  induction n, at_, names using walk_induction t generalizing m with
  | nil n at_ => simp
  | dot n at_ names ih => simpa using ih (by simpa using h) (by simpa using h')
  | up n at_ names ih => simpa using ih (by simpa using h) (by simpa using h')
  | long n at_ name names h₁ h₂ hlong =>
    rw [walkLinks_long h₁ h₂ hlong, walkLinks_long h₁ h₂ hlong]
  | none n at_ name names hn he => rw [walkLinks_none hn he, walkLinks_none hn he]
  | directory n at_ name names hn he ih =>
    rw [walkLinks_directory hn he] at h h' ⊢
    rw [walkLinks_directory hn he]
    exact ih h h'
  | file n at_ name names content hn he => rw [walkLinks_file hn he, walkLinks_file hn he]
  | lastLink at_ name names target hn he =>
    rw [walkLinks_link hn he] at h ⊢
    -- the link is not followed, which needs no link that is left
    split at h
    · rename_i hlast
      rw [walkLinks_link hn he, if_pos hlast, if_pos hlast]
    · exact absurd rfl h
  | link n at_ name names target hn he ih =>
    rw [walkLinks_link hn he] at h h' ⊢
    rw [walkLinks_link hn he]
    split at h
    · -- the link that ends the walk costs nothing in either
      rename_i hlast
      rw [if_pos hlast, if_pos hlast]
    · rename_i hlast
      rw [if_neg hlast] at h' ⊢
      rw [if_neg hlast]
      -- the other walk must be able to follow this link, too
      cases m with
      | zero => exact absurd rfl h'
      | succ m => exact ih h h'

/-! ## Walks in two trees -/

/-- The directories and links of a tree are in another one. -/
structure KeepsWays (t t' : FileTree) : Prop where
  directory : ∀ k, t.lookup k = some .directory → t'.lookup k = some .directory
  link : ∀ k target, t.lookup k = some (.link target) → t'.lookup k = some (.link target)

/-- A walk stays the same while directories and links stay, and what it ends at. -/
theorem walkLinks_mono (hk : KeepsWays t t') {place : Place}
    (h : walkLinks t fl n at_ names = .ok place)
    (he' : (∀ d, place ≠ .directory d) → t'.lookup place.location = place.entry?) :
    walkLinks t' fl n at_ names = .ok place := by
  -- each step is taken in the other tree as well, since it goes through directories and links
  induction n, at_, names using walk_induction t with
  | nil n at_ => simpa using h
  | dot n at_ names ih => simpa using ih (by simpa using h)
  | up n at_ names ih => simpa using ih (by simpa using h)
  | long n at_ name names h₁ h₂ hlong =>
    rw [walkLinks_long h₁ h₂ hlong] at h; exact nomatch h
  | none n at_ name names hn he =>
    rw [walkLinks_none hn he] at h
    split at h
    · -- only here and at a file does what it ends at matter
      rename_i hnames
      obtain rfl := Except.ok.inj h
      rw [walkLinks_none hn (he' nofun), if_pos hnames]
    · exact nomatch h
  | directory n at_ name names hn he ih =>
    rw [walkLinks_directory hn he] at h
    rw [walkLinks_directory hn (hk.directory _ he), ih h]
  | file n at_ name names content hn he =>
    rw [walkLinks_file hn he] at h
    split at h
    · rename_i hnames
      obtain rfl := Except.ok.inj h
      rw [walkLinks_file hn (he' nofun), if_pos hnames]
    · exact nomatch h
  | lastLink at_ name names target hn he =>
    rw [walkLinks_link hn he] at h
    rw [walkLinks_link hn (hk.link _ _ he)]
    -- a link at the end is not followed, and it is in the other tree
    split at h
    · rename_i hlast
      rw [if_pos hlast, h]
    · exact nomatch h
  | link n at_ name names target hn he ih =>
    rw [walkLinks_link hn he] at h
    rw [walkLinks_link hn (hk.link _ _ he)]
    split at h
    · rename_i hlast
      rw [if_pos hlast, h]
    · rename_i hlast
      rw [if_neg hlast]
      exact ih h

/-- The place of an entry. -/
def placeOf (k : Location) : Entry → Place
  | .directory => .directory k
  | .file content => .file k content
  | .link target => .link k target

/-- A walk stays the same without a link whose target leads neither to where the walk ends nor to a
    directory: no such walk follows that link. -/
theorem walkLinks_around {k : Location} {target : String} {place : Place}
    (hk : t.lookup k = some (.link target)) (hsame : ∀ j, j ≠ k → t'.lookup j = t.lookup j)
    (hlead : ∀ m other, walkLinks t true m (linkBase target k.tail) (targetNames target) =
      .ok other → other ≠ place ∧ ∀ d, other ≠ .directory d)
    (h : walkLinks t true n at_ names = .ok place) :
    walkLinks t' true n at_ names = .ok place := by
  -- all that is not the link is in the other tree
  have hkeep : ∀ {j e}, t.lookup j = some e → (∀ target, e ≠ .link target) →
      t'.lookup j = some e := by
    intro j e he hlink
    rw [hsame j, he]
    rintro rfl
    rw [hk] at he
    exact hlink target (Option.some.inj he).symm
  induction n, at_, names using walk_induction t with
  | nil n at_ => simpa using h
  | dot n at_ names ih => simpa using ih (by simpa using h)
  | up n at_ names ih => simpa using ih (by simpa using h)
  | long n at_ name names h₁ h₂ hlong =>
    rw [walkLinks_long h₁ h₂ hlong] at h; exact nomatch h
  -- the link is not here, because nothing is
  | none n at_ name names hn he =>
    have he' : t'.lookup (name :: at_) = none := by
      rw [hsame, he]
      rintro rfl
      rw [hk] at he
      exact nomatch he
    rw [walkLinks_none hn he] at h
    rw [walkLinks_none hn he', h]
  | directory n at_ name names hn he ih =>
    rw [walkLinks_directory hn he] at h
    rw [walkLinks_directory hn (hkeep he nofun), ih h]
  | file n at_ name names content hn he =>
    rw [walkLinks_file hn he] at h
    rw [walkLinks_file hn (hkeep he nofun), h]
  | lastLink at_ name names target' hn he =>
    rw [walkLinks_link hn he, if_neg (by simp)] at h
    exact nomatch h
  | link n at_ name names target' hn he ih =>
    rw [walkLinks_link hn he, if_neg (by simp), leap] at h
    by_cases heq : name :: at_ = k
    · -- the walk would go through the target of the link, or end where it leads
      exfalso
      subst heq
      obtain rfl : target' = target := by
        rw [he] at hk
        simpa using hk
      simp only [List.tail_cons] at hlead
      by_cases hnames : names = []
      · rw [hnames, List.append_nil] at h
        exact (hlead n place h).1 rfl
      · rw [walkLinks_append_error hnames fun d hd => (hlead n _ hd).2 d rfl] at h
        exact nomatch h
    · -- it is another link, which is followed in both trees
      rw [walkLinks_link hn (by rw [hsame _ heq, he]), if_neg (by simp), leap]
      exact ih h

/-- What is put where a walk ended in nothing or at a file is found by that walk. -/
theorem walkLinks_filled (hk : KeepsWays t t') {k : Location} {place : Place} {e : Entry}
    (h : walkLinks t fl n at_ names = .ok place)
    (hplace : place = .vacant k ∨ ∃ old, place = .file k old) (he' : t'.lookup k = some e)
    (hlink : ∀ target, e ≠ .link target) :
    walkLinks t' fl n at_ names = .ok (placeOf k e) := by
  -- where the walk ends it now finds the entry, and a directory is entered although no name is left
  have hfound : ∀ {n at_ name}, IsEntryName name → name :: at_ = k →
      walkLinks t' fl n at_ [name] = .ok (placeOf k e) := by
    rintro n at_ name hn rfl
    cases e with
    | directory => rw [walkLinks_directory hn he', walkLinks_nil]; rfl
    | file content => rw [walkLinks_file hn he', if_pos rfl]; rfl
    | link target => exact absurd rfl (hlink target)
  induction n, at_, names using walk_induction t with
  | nil n at_ =>
    obtain rfl : Place.directory at_ = place := by simpa using h
    simp at hplace
  | dot n at_ names ih => simpa using ih (by simpa using h)
  | up n at_ names ih => simpa using ih (by simpa using h)
  | long n at_ name names h₁ h₂ hlong =>
    rw [walkLinks_long h₁ h₂ hlong] at h; exact nomatch h
  | none n at_ name names hn he =>
    -- nothing was here, and now the entry is
    rw [walkLinks_none hn he] at h
    split at h
    · rename_i hnames
      obtain rfl := Except.ok.inj h
      rw [hnames]
      exact hfound hn (by simpa using hplace)
    · exact nomatch h
  | directory n at_ name names hn he ih =>
    rw [walkLinks_directory hn he] at h
    rw [walkLinks_directory hn (hk.directory _ he), ih h]
  | file n at_ name names content hn he =>
    -- a file was here, and now the entry is
    rw [walkLinks_file hn he] at h
    split at h
    · rename_i hnames
      obtain rfl := Except.ok.inj h
      rw [hnames]
      exact hfound hn (by simpa using hplace)
    · exact nomatch h
  | lastLink at_ name names target hn he =>
    -- a walk that ends at a link ends neither in nothing nor at a file
    rw [walkLinks_link hn he] at h
    split at h
    · obtain rfl := Except.ok.inj h
      simp at hplace
    · exact nomatch h
  | link n at_ name names target hn he ih =>
    rw [walkLinks_link hn he] at h
    rw [walkLinks_link hn (hk.link _ _ he)]
    split at h
    · obtain rfl := Except.ok.inj h
      simp at hplace
    · rename_i hlast
      rw [if_neg hlast]
      exact ih h

end ScriptBindings.FileTree

import Mathlib.Data.Set.Defs
import ScriptBindings.Proofs.Committing
import ScriptBindings.Proofs.PlainPaths

/-!
# Files that are apart

Destinations along plain paths, none of which is the temporary path of another one. Their files and
their temporary files lie at different locations, so renaming one of them leaves the others alone.

## Key results

- `separate_iff`: which listed destinations are apart
- `Separate.locate_ne_temp`: no destination is a temporary path
- `Separate.apart`: what lies at a destination and its temporary path lies nowhere else
- `renameAll_separate`: what renaming the temporary files changes
- `renameAll_ok`: files that can be renamed one by one can be renamed all
-/

namespace ScriptBindings

open FileTree

/-- Destinations that are apart: along plain paths without links, where none is the temporary path
    of another one. -/
structure Separate (s : Staging) (t : FileTree) (ds : Set NormalPath) : Prop where
  /-- The working directory is there. -/
  here : t.lookup t.here = some .directory
  plain : ∀ p ∈ ds, p.IsPlain
  linkless : ∀ p ∈ ds, t.IsLinkless (t.locate p)
  temp_linkless : ∀ p ∈ ds, ∀ temp, s.tempPath p = .ok temp → t.IsLinkless (t.locate temp)
  not_temp : ∀ p ∈ ds, ∀ q ∈ ds, p ≠ q → s.tempPath q ≠ .ok p

/-- Whether listed destinations are apart is known from each of them, its temporary path and each
    other one. -/
theorem separate_iff {s : Staging} {t : FileTree} {ps : List NormalPath} :
    Separate s t { p | p ∈ ps } ↔
      t.lookup t.here = some .directory ∧
        (∀ p ∈ ps, p.IsPlain ∧ t.IsLinkless (t.locate p) ∧
          ∀ temp ∈ (s.tempPath p).toOption, t.IsLinkless (t.locate temp)) ∧
        ∀ p ∈ ps, ∀ q ∈ ps, p ≠ q → p.toFilePath ∉ (s.tempPath q).toOption := by
  have htemp (p : NormalPath) (temp : FilePath) :
      temp ∈ (s.tempPath p).toOption ↔ s.tempPath p = .ok temp := by
    cases s.tempPath p <;> simp [Except.toOption]
  simp only [htemp]
  constructor
  · rintro ⟨hhere, hplain, hlinkless, htempLinkless, hnot⟩
    exact ⟨hhere, fun p hp => ⟨hplain p hp, hlinkless p hp, htempLinkless p hp⟩, hnot⟩
  · rintro ⟨hhere, heach, hnot⟩
    exact ⟨hhere, fun p hp => (heach p hp).1, fun p hp => (heach p hp).2.1,
      fun p hp => (heach p hp).2.2, hnot⟩

instance (s : Staging) (t : FileTree) (ps : List NormalPath) :
    Decidable (Separate s t { p | p ∈ ps }) :=
  decidable_of_iff _ separate_iff.symm

/-- A destination with its temporary path, where that is a plain path too. -/
structure Staging.Pairs (s : Staging) (ds : Set NormalPath) (e : NormalPath × FilePath) : Prop where
  mem : e.1 ∈ ds
  temp : s.tempPath e.1 = .ok e.2
  plain : e.2.IsPlain

/-- A pair of a destination and its temporary path depends on the suffix only. -/
theorem Staging.Pairs.of_suffix {s s' : Staging} {ds : Set NormalPath} {e : NormalPath × FilePath}
    (he : s.Pairs ds e) (h : s'.suffix = s.suffix) : s'.Pairs ds e :=
  ⟨he.mem, (Staging.tempPath_of_suffix h _).trans he.temp, he.plain⟩

namespace Separate

variable {s : Staging} {t t' : FileTree} {ds : Set NormalPath} {e f : NormalPath × FilePath}

theorem isPlain (h : Separate s t ds) {p : NormalPath} (hp : p ∈ ds) : p.toFilePath.IsPlain :=
  (h.plain p hp).toFilePath

theorem clear (h : Separate s t ds) {p : NormalPath} (hp : p ∈ ds) : t.IsClear p :=
  ⟨h.isPlain hp, h.here, h.linkless p hp⟩

theorem clear_temp (h : Separate s t ds) (he : s.Pairs ds e) : t.IsClear e.2 :=
  ⟨he.plain, h.here, h.temp_linkless _ he.mem _ he.temp⟩

/-- Destinations stay apart while the working directory stays and no links are added. -/
theorem mono (h : Separate s t ds) (hh : t'.here = t.here)
    (hd : t'.lookup t.here = some .directory)
    (hl : ∀ k target, t'.lookup k = some (.link target) → t.lookup k = some (.link target)) :
    Separate s t' ds := by
  refine ⟨by rw [hh, hd], h.plain, fun p hp => ((h.clear hp).mono hh hd hl).linkless,
    fun p hp temp htemp => ?_, h.not_temp⟩
  · rw [locate_of_here hh]
    exact (h.temp_linkless p hp temp htemp).mono hl

/-- Which destinations are apart depends on the suffix only, not on what is staged. -/
theorem of_suffix {s' : Staging} (h : Separate s t ds) (hs : s'.suffix = s.suffix) :
    Separate s' t ds := by
  have htemp := Staging.tempPath_of_suffix hs
  refine ⟨h.here, h.plain, h.linkless, fun p hp temp => ?_, fun p hp q hq => ?_⟩
  · rw [htemp]
    exact h.temp_linkless p hp temp
  · rw [htemp]
    exact h.not_temp p hp q hq

/-- No destination is a temporary path if the suffix is no empty text. -/
theorem locate_ne_temp (h : Separate s t ds) (hs : s.suffix ≠ .text "") (u : FileTree)
    (he : s.Pairs ds e) {q : NormalPath} (hq : q ∈ ds) : u.locate q ≠ u.locate e.2 := by
  intro hk
  have htemp := he.temp
  -- the path would be its own temporary path, or that of another destination
  rw [← locate_inj (h.isPlain hq) he.plain hk] at htemp
  by_cases hne : q = e.1
  · subst hne
    exact Staging.tempPath_ne hs htemp
  · exact h.not_temp q hq e.1 he.mem hne htemp

/-- Destinations stay apart when a temporary file changes. -/
theorem of_differsAt (h : Separate s t ds) (he : s.Pairs ds e)
    (ht : DiffersAt t t' (t.locate e.2)) : Separate s t' ds := by
  -- a temporary path has at least one part
  have hne : t.here ≠ t.locate e.2 := by
    intro hk
    obtain ⟨suffix, name, -, -, heq, -⟩ := Staging.tempPath_eq_ok he.temp
    have hlength := congrArg List.length hk
    rw [heq, locate] at hlength
    simp at hlength
    omega
  refine h.mono ht.here_eq ?_ fun k target hk => ht.link hk
  -- the working directory is as it was, or new as a directory
  rcases ht.same _ hne with hsame | ⟨-, hdir⟩
  · rw [hsame, h.here]
  · exact hdir

/-- What lies at a destination and its temporary path lies nowhere else. -/
theorem apart (h : Separate s t ds) (u : FileTree) (he : s.Pairs ds e) (hf : s.Pairs ds f)
    (hne : e.1 ≠ f.1) :
    (u.locate e.1 ≠ u.locate f.1 ∧ u.locate e.1 ≠ u.locate f.2) ∧
      u.locate e.2 ≠ u.locate f.1 ∧ u.locate e.2 ≠ u.locate f.2 := by
  have hep := h.isPlain he.mem
  have hfp := h.isPlain hf.mem
  -- four pairs of locations, each of which is one path if it is one location
  refine ⟨⟨fun hk => hne (NormalPath.ext (locate_inj hep hfp hk)), fun hk => ?_⟩, fun hk => ?_,
    fun hk => ?_⟩
  · exact h.not_temp _ he.mem _ hf.mem hne (by rw [hf.temp, locate_inj hep hf.plain hk])
  · exact h.not_temp _ hf.mem _ he.mem hne.symm (by rw [he.temp, locate_inj he.plain hfp hk])
  · refine hne (Staging.tempPath_inj he.temp ?_)
    rw [locate_inj he.plain hf.plain hk]
    exact hf.temp

end Separate

/-! ## Renaming several files -/

namespace FileTree

variable {s : Staging} {t t' : FileTree} {ds : Set NormalPath} {es : List (NormalPath × FilePath)}
  {p : NormalPath} {temp : FilePath}

/-- What renaming temporary files changes. -/
structure Renamed (t t' : FileTree) (es : List (NormalPath × FilePath)) : Prop where
  here_eq : t'.here = t.here
  directory : ∀ k, t.lookup k = some .directory → t'.lookup k = some .directory
  link : ∀ k target, t'.lookup k = some (.link target) → t.lookup k = some (.link target)
  /-- Every destination has what was its temporary file. -/
  filled : ∀ e ∈ es, ∃ bytes, t.lookup (t.locate e.2) = some (.file bytes) ∧
    t'.lookup (t.locate e.1) = some (.file bytes)
  cleared : ∀ e ∈ es, e.1.toFilePath ≠ e.2 → t'.lookup (t.locate e.2) = none
  same : ∀ k, (∀ e ∈ es, k ≠ t.locate e.1 ∧ k ≠ t.locate e.2) → t'.lookup k = t.lookup k

/-- The working directory and the absence of links outlast a renaming. -/
theorem Renamed.separate (hr : Renamed t t' es) (h : Separate s t ds) : Separate s t' ds :=
  h.mono hr.here_eq (hr.directory _ h.here) hr.link

/-- What renaming one temporary file changes. -/
private theorem rename_separate (h : Separate s t ds) (he : s.Pairs ds (p, temp))
    (hfile : ∀ entry, t.lookup (t.locate temp) = some entry → ∃ bytes, entry = .file bytes)
    (hr : t.rename temp p = .ok t') : Renamed t t' [(p, temp)] := by
  obtain ⟨bytes, hbytes, hdir, hhere, hlookup⟩ :=
    rename_plain (h.clear_temp he) (h.clear he.mem) hfile hr
  -- the two entries of the renaming are all that changes
  have hsame : ∀ k, k ≠ t.locate p → k ≠ t.locate temp → t'.lookup k = t.lookup k := by
    intro k hp ht
    rw [hlookup, if_neg hp, if_neg ht]
  refine ⟨hhere, fun k hk => ?_, fun k target hk => ?_, ?_, ?_, fun k hk => ?_⟩
  · -- neither a directory nor a link is among the entries that change
    rw [hsame k _ _, hk]
    · rintro rfl
      exact hdir hk
    · rintro rfl
      rw [hk] at hbytes
      exact nomatch hbytes
  · rw [hlookup] at hk
    split at hk
    · exact nomatch hk
    · split at hk
      · exact nomatch hk
      · exact hk
  · intro e he'
    obtain rfl := List.mem_singleton.mp he'
    exact ⟨bytes, hbytes, by rw [hlookup, if_pos rfl]⟩
  · intro e he' hne
    obtain rfl := List.mem_singleton.mp he'
    have hk : t.locate temp ≠ t.locate p := fun hk =>
      -- the suffix makes the two paths differ, and so their locations
      hne (locate_inj he.plain (h.isPlain he.mem) hk).symm
    rw [hlookup, if_neg hk, if_pos rfl]
  · obtain ⟨hp, ht⟩ := hk (p, temp) List.mem_cons_self
    exact hsame k hp ht

/-- The first pair is apart from all others. -/
private theorem apart_of_nodup (h : Separate s t ds) {e : NormalPath × FilePath}
    (he : ∀ f ∈ e :: es, s.Pairs ds f) (hn : ((e :: es).map Prod.fst).Nodup) :
    ∀ f ∈ es, (t.locate e.1 ≠ t.locate f.1 ∧ t.locate e.1 ≠ t.locate f.2) ∧
      t.locate e.2 ≠ t.locate f.1 ∧ t.locate e.2 ≠ t.locate f.2 := by
  intro f hf
  -- the destinations are different ones, so the pairs are apart
  rw [List.map_cons, List.nodup_cons] at hn
  refine h.apart t (he e List.mem_cons_self) (he f (List.mem_cons_of_mem _ hf)) fun heq => hn.1 ?_
  rw [heq]
  exact List.mem_map_of_mem hf

/-- Renaming one file and then others. -/
private theorem Renamed.cons {t₁ : FileTree} {e : NormalPath × FilePath}
    (h : Renamed t t₁ [e]) (h' : Renamed t₁ t' es)
    (hapart : ∀ f ∈ es, (t.locate e.1 ≠ t.locate f.1 ∧ t.locate e.1 ≠ t.locate f.2) ∧
      t.locate e.2 ≠ t.locate f.1 ∧ t.locate e.2 ≠ t.locate f.2) : Renamed t t' (e :: es) := by
  have hloc : ∀ q, t₁.locate q = t.locate q := locate_of_here h.here_eq
  -- what lies elsewhere is moved by neither renaming
  have hstays : ∀ k, (∀ f ∈ es, k ≠ t.locate f.1 ∧ k ≠ t.locate f.2) →
      t'.lookup k = t₁.lookup k := fun k hk => h'.same k (by simpa only [hloc] using hk)
  refine ⟨h'.here_eq.trans h.here_eq, fun k hk => h'.directory k (h.directory k hk),
    fun k target hk => h.link k target (h'.link k target hk), fun f hf => ?_, fun f hf hne => ?_,
    fun k hk => ?_⟩
  · -- the first file stays where it went, and the others are where they were before
    rcases List.mem_cons.mp hf with rfl | hmem
    · obtain ⟨bytes, hbytes, hfilled⟩ := h.filled f List.mem_cons_self
      exact ⟨bytes, hbytes, by rw [hstays _ fun g hg => (hapart g hg).1, hfilled]⟩
    · obtain ⟨bytes, hbytes, hfilled⟩ := h'.filled f hmem
      rw [hloc] at hbytes hfilled
      have hsame := h.same (t.locate f.2) fun g hg => by
        obtain rfl := List.mem_singleton.mp hg
        exact ⟨(hapart f hmem).1.2.symm, (hapart f hmem).2.2.symm⟩
      exact ⟨bytes, by rw [← hsame, hbytes], hfilled⟩
  · -- what the first one has cleared stays so, and the others clear their own
    rcases List.mem_cons.mp hf with rfl | hmem
    · rw [hstays _ fun g hg => (hapart g hg).2]
      exact h.cleared f List.mem_cons_self hne
    · rw [← hloc]
      exact h'.cleared f hmem hne
  · rw [hstays k fun f hf => hk f (List.mem_cons_of_mem _ hf)]
    exact h.same k fun f hf => hk f (List.mem_singleton.mp hf ▸ List.mem_cons_self)

/-- **What renaming temporary files changes.** Every destination gets its temporary file, which is
    then gone, and nothing else changes. -/
theorem renameAll_separate (h : Separate s t ds) (he : ∀ e ∈ es, s.Pairs ds e)
    (hn : (es.map Prod.fst).Nodup)
    (hfile : ∀ e ∈ es, ∀ entry, t.lookup (t.locate e.2) = some entry →
      ∃ bytes, entry = .file bytes)
    (hr : t.renameAll es = .ok t') : Renamed t t' es := by
  -- along the list, since each file is renamed in the tree that the others have left
  induction es generalizing t with
  | nil =>
    obtain rfl := Except.ok.inj hr
    exact ⟨rfl, fun _ hk => hk, fun _ _ hk => hk, by simp, by simp, fun _ _ => rfl⟩
  | cons e es ih =>
    obtain ⟨p, temp⟩ := e
    have hapart := apart_of_nodup h he hn
    simp only [renameAll, List.foldlM_cons, bind, Except.bind] at hr
    cases hfirst : t.rename temp p with
    | error fault => rw [hfirst] at hr; simp at hr
    | ok t₁ =>
      rw [hfirst] at hr
      have hone := rename_separate h (he _ List.mem_cons_self) (hfile _ List.mem_cons_self) hfirst
      refine hone.cons (ih (hone.separate h) (fun f hf => he f (List.mem_cons_of_mem _ hf))
        (List.nodup_cons.mp hn).2 (fun f hf entry hentry => ?_) hr) hapart
      -- the other temporary files are not touched by the first renaming
      rw [locate_of_here hone.here_eq, hone.same _ fun g hg => by
        obtain rfl := List.mem_singleton.mp hg
        exact ⟨(hapart f hf).1.2.symm, (hapart f hf).2.2.symm⟩] at hentry
      exact hfile f (List.mem_cons_of_mem _ hf) entry hentry

/-- A temporary file that can be renamed. -/
def CanRename (t : FileTree) (e : NormalPath × FilePath) : Prop :=
  (∃ bytes, t.lookup (t.locate e.2) = some (.file bytes)) ∧ ∃ moved, t.rename e.2 e.1 = .ok moved

/-- A file can still be renamed after another one. -/
private theorem CanRename.after {e f : NormalPath × FilePath} (h : Separate s t ds)
    (he : s.Pairs ds e) (hf : s.Pairs ds f) (hne : e.1 ≠ f.1) (hr : Renamed t t' [e])
    (hcan : t.CanRename f) : t'.CanRename f := by
  obtain ⟨⟨bytes, hbytes⟩, moved, hmoved⟩ := hcan
  have hapart := h.apart t he hf hne
  have hstays : ∀ k, k ≠ t.locate e.1 → k ≠ t.locate e.2 → t'.lookup k = t.lookup k := by
    intro k h₁ h₂
    exact hr.same k fun g hg => List.mem_singleton.mp hg ▸ ⟨h₁, h₂⟩
  have htemp := hstays (t.locate f.2) hapart.1.2.symm hapart.2.2.symm
  have hdest := hstays (t.locate f.1) hapart.1.1.symm hapart.2.1.symm
  -- no link lies at either of the locations that change
  have hways : KeepsWays t t' := by
    refine ⟨hr.directory, fun k target hk => ?_⟩
    rw [hstays k _ _, hk]
    · rintro rfl
      exact h.linkless _ he.mem _ (List.suffix_refl _) target hk
    · rintro rfl
      exact h.temp_linkless _ he.mem _ he.temp _ (List.suffix_refl _) target hk
  refine ⟨⟨bytes, by rw [locate_of_here hr.here_eq, htemp, hbytes]⟩, ?_⟩
  exact rename_again (h.clear_temp hf) (h.clear hf.mem) hbytes hmoved hways hr.here_eq htemp hdest

/-- Temporary files that can be renamed one by one can be renamed all. -/
theorem renameAll_ok (h : Separate s t ds) (he : ∀ e ∈ es, s.Pairs ds e)
    (hn : (es.map Prod.fst).Nodup) (hcan : ∀ e ∈ es, t.CanRename e) :
    ∃ t', t.renameAll es = .ok t' := by
  induction es generalizing t with
  | nil => exact ⟨t, rfl⟩
  | cons e es ih =>
    have hpair := he e List.mem_cons_self
    obtain ⟨⟨bytes, hbytes⟩, t₁, hfirst⟩ := hcan e List.mem_cons_self
    have hone : Renamed t t₁ [e] := by
      refine rename_separate h hpair (fun entry hentry => ⟨bytes, ?_⟩) hfirst
      rw [hbytes] at hentry
      exact (Option.some.inj hentry).symm
    -- the first file is renamed, and the others can still be
    simp only [renameAll, List.foldlM_cons, hfirst, bind, Except.bind]
    refine ih (hone.separate h) (fun f hf => he f (List.mem_cons_of_mem _ hf))
      (List.nodup_cons.mp hn).2 fun f hf => ?_
    have hne : e.1 ≠ f.1 := by
      rw [List.map_cons, List.nodup_cons] at hn
      intro heq
      exact hn.1 (heq ▸ List.mem_map_of_mem hf)
    exact (hcan f (List.mem_cons_of_mem _ hf)).after h hpair (he f (List.mem_cons_of_mem _ hf)) hne
      hone

end FileTree

end ScriptBindings

import ScriptBindings.Proofs.ClassPaths
import ScriptBindings.Proofs.Climbing
import ScriptBindings.Proofs.Traversals

/-!
# Supers in use

A layout takes down the supers that it comes across while it looks for directories. What it has
taken down is a function of the calls alone: the ancestors of all classes and structs whose look-up
has succeeded, call by call and nearest first, each one where it first came. A look-up that fails
has climbed some way, but leaves nothing behind.

## Key results

- `foldl_note`: taking down a list adds what is new in it
- `perform_used`, `perform_result`: what a call leaves behind, and when it succeeds
- `performAll_used`: what a sequence of calls leaves behind
- `used_performAll`: the record is exact, free of repetitions, closed under supers, and independent
  of the depth
-/

namespace ScriptBindings

/-! ## Names that are texts -/

/-- The value is a text. -/
def Scalar.IsText (s : Scalar) : Prop := ∃ t, s = .text t

/-- A class that is called by a text has a text as its script name. -/
theorem Scalar.IsText.className {s : Scalar} (h : s.IsText) : s.className.IsText := by
  obtain ⟨t, rfl⟩ := h
  exact ⟨Name.ofClass t, rfl⟩

namespace Layout

variable {l : Layout} {isClass : Bool} {ancestors : List Scalar} {name : Scalar}

/-- Values that are texts are made from a list of texts. -/
private theorem exists_texts {xs : List Scalar} (h : ∀ x ∈ xs, x.IsText) :
    ∃ names : List String, xs = names.map .text := by
  induction xs with
  | nil => exact ⟨[], rfl⟩
  | cons x xs ih =>
    obtain ⟨t, rfl⟩ := h x List.mem_cons_self
    obtain ⟨names, rfl⟩ := ih fun y hy => h y (List.mem_cons_of_mem _ hy)
    exact ⟨t :: names, rfl⟩

/-- The directories of a class that is called by a text, as are its ancestors, are texts. -/
theorem segments_isText (nesting : Nat) (hname : name.IsText) (ha : ∀ a ∈ ancestors, a.IsText) :
    ∀ x ∈ segments nesting ancestors name, x.IsText := by
  intro x hx
  unfold segments at hx
  -- the outer directories come from supers, the last one from the class itself
  rcases List.mem_append.mp hx with houter | hown
  · obtain ⟨a, hmem, rfl⟩ := List.mem_map.mp houter
    exact (ha a (List.mem_reverse.mp (List.mem_of_mem_take hmem))).className
  · rw [List.mem_singleton] at hown
    subst hown
    -- the last one also shows the nearest super, if that is left over
    cases ancestors with
    | nil => exact hname.className
    | cons nearest rest =>
      simp only
      split
      · exact ⟨_, rfl⟩
      · exact hname.className

/-- A class that is called by a text, as are its ancestors, has a directory. -/
theorem exists_classPath {levels : Int} (hd : l.depth = .levels levels) (hname : name.IsText)
    (ha : ∀ a ∈ ancestors, a.IsText) : ∃ p, l.classPath isClass ancestors name = .ok p := by
  -- texts are all that the layout asks of its directories, so it cannot fail
  obtain ⟨names, hnames⟩ := exists_texts
    (segments_isText (min (levels - reserved isClass).toNat ancestors.length) hname ha)
  exact ⟨_, classPath_of_texts hd hnames⟩

end Layout

/-! ## Calls -/

variable {α : Type} [DecidableEq α]

namespace Hierarchy

/-- The supers that are come through above a class or struct, nearest first. -/
def ancestors (h : Hierarchy α) (a : α) : List α := (climb h.parent a).reached

/-- All classes and structs are called by texts. -/
def IsTextual (h : Hierarchy α) : Prop := ∀ a, (h.name a).IsText

/-- What a look-up takes down, whether or not it is new: all ancestors, or nothing if they have no
    end. -/
def takenDown (h : Hierarchy α) (a : α) : List α :=
  if (climb h.parent a).ended then h.ancestors a else []

end Hierarchy

/-- A call: the directory of a class or struct is asked for, or the file of one of its methods. -/
structure PathCall (α : Type) where
  start : α
  isClass : Bool
  /-- The name of the method, and whether it is static. -/
  method : Option (String × Bool)

namespace Layout

/-- What a call gives, and the supers that have been come across after it. -/
def perform (l : Layout) (h : Hierarchy α) (used : List α) (c : PathCall α) :
    Except LayoutError NormalPath × List α :=
  let found := l.walk h used c.isClass c.start
  match c.method with
  | none => found
  | some (name, isStatic) => (found.1.map (·.join (methodFileName name isStatic)), found.2)

/-- What calls give one after the other, and the supers that have been come across after them. -/
def performAll (l : Layout) (h : Hierarchy α) :
    List α → List (PathCall α) → List (Except LayoutError NormalPath) × List α
  | used, [] => ([], used)
  | used, c :: cs =>
    let first := l.perform h used c
    let others := l.performAll h first.2 cs
    (first.1 :: others.1, others.2)

end Layout

namespace TrackedLayout

variable {l : TrackedLayout} {m : Model} {s : Struct}

/-- A layout with its record looks up directories by such calls. -/
theorem classPath_eq_perform :
    l.classPath m s =
      ((l.toLayout.perform m.hierarchy l.used ⟨s.name, s.isClass, none⟩).1,
        { l with used := (l.toLayout.perform m.hierarchy l.used ⟨s.name, s.isClass, none⟩).2 }) :=
  rfl

/-- A layout with its record looks up files of methods by such calls. -/
theorem methodPath_eq_perform {method : String} {isStatic : Bool} :
    l.methodPath m s method isStatic =
      ((l.toLayout.perform m.hierarchy l.used ⟨s.name, s.isClass, some (method, isStatic)⟩).1,
        { l with used := (l.toLayout.perform m.hierarchy l.used
          ⟨s.name, s.isClass, some (method, isStatic)⟩).2 }) :=
  rfl

end TrackedLayout

/-! ## The record -/

namespace Layout

variable {l : Layout} {h : Hierarchy α} {used xs : List α} {c : PathCall α} {levels : Int}

/-- Taking down a list adds what is new in it, each one where it first comes. -/
theorem foldl_note (xs as : List α) : as.foldl note xs.eraseDups = (xs ++ as).eraseDups := by
  -- induction on the list, for any record before it
  induction as generalizing xs with
  | nil => rw [List.foldl_nil, List.append_nil]
  | cons a as ih =>
    -- one entry: it is added if it is new, which is what removing repetitions does
    have hone : note xs.eraseDups a = (xs ++ [a]).eraseDups := by
      rw [note, eraseDups_concat]
      simp only [List.mem_eraseDups]
    rw [List.foldl_cons, hone, ih, List.append_assoc, List.singleton_append]

/-- What a call leaves behind does not depend on what it gives. -/
theorem perform_used : (l.perform h used c).2 = (h.takenDown c.start).foldl note used := by
  -- looking up the directory decides what is taken down, the name of a method does not
  have hwalk : (l.walk h used c.isClass c.start).2 = (h.takenDown c.start).foldl note used := by
    unfold walk Hierarchy.takenDown
    by_cases hended : (climb h.parent c.start).ended = true
    · simp only [hended, if_pos, Hierarchy.ancestors]
    · simp only [hended, if_neg, Bool.false_eq_true, not_false_eq_true, List.foldl_nil]
  unfold perform
  cases c.method with
  | none => exact hwalk
  | some method => exact hwalk

/-- What has been come across so far stays, and what is new comes behind it. -/
theorem prefix_perform : used <+: (l.perform h used c).2 := by
  -- induction on what is taken down: each entry is there already or comes last
  rw [perform_used]
  induction h.takenDown c.start generalizing used with
  | nil => exact List.prefix_refl _
  | cons a as ih =>
    have hone : used <+: note used a := by
      unfold note
      split
      · exact List.prefix_refl _
      · exact List.prefix_append _ _
    exact hone.trans ih

/-- A call succeeds if the ancestors have an end. Otherwise that is its error. -/
theorem perform_result (hnames : h.IsTextual) (hd : l.depth = .levels levels) (used : List α)
    (c : PathCall α) :
    (climb h.parent c.start).ended = true ∧ (∃ p, (l.perform h used c).1 = .ok p) ∨
      (climb h.parent c.start).ended = false ∧
        (l.perform h used c).1 = .error (.hierarchy ⟨h.name c.start⟩) := by
  -- the climb decides between success and failure
  cases hended : (climb h.parent c.start).ended with
  | true =>
    -- what the climb has come through are texts, so the directory is found
    have htexts : ∀ a ∈ (climb h.parent c.start).reached.map h.name, a.IsText := by
      intro a ha
      obtain ⟨b, -, rfl⟩ := List.mem_map.mp ha
      exact hnames b
    obtain ⟨p, hp⟩ : ∃ p, l.classPath c.isClass ((climb h.parent c.start).reached.map h.name)
        (h.name c.start) = .ok p := exists_classPath hd (hnames c.start) htexts
    have hwalk : (l.walk h used c.isClass c.start).1 = .ok p := by
      simp only [walk, hended, if_pos, hp]
    refine .inl ⟨rfl, ?_⟩
    unfold perform
    cases c.method with
    | none => exact ⟨p, hwalk⟩
    | some method => exact ⟨p.join (methodFileName method.1 method.2), by simp only [hwalk]; rfl⟩
  | false =>
    -- without an end there is no directory, and hence no file
    have hwalk : (l.walk h used c.isClass c.start).1 = .error (.hierarchy ⟨h.name c.start⟩) := by
      simp only [walk, hended, Bool.false_eq_true, if_false]
    refine .inr ⟨rfl, ?_⟩
    unfold perform
    cases c.method with
    | none => exact hwalk
    | some method => simp only [hwalk]; rfl

/-- A call that fails does so because the ancestors have no end, and leaves nothing behind. -/
theorem perform_of_error (hnames : h.IsTextual) (hd : l.depth = .levels levels) {e : LayoutError}
    (he : (l.perform h used c).1 = .error e) :
    e = .hierarchy ⟨h.name c.start⟩ ∧ (l.perform h used c).2 = used := by
  -- a result cannot be both, so the climb has no end
  rcases perform_result hnames hd used c with ⟨-, p, hp⟩ | ⟨hended, herror⟩
  · exact nomatch he.symm.trans hp
  · have hnone : h.takenDown c.start = [] := by
      rw [Hierarchy.takenDown, hended]
      rfl
    exact ⟨Except.error.inj (he.symm.trans herror), by rw [perform_used, hnone, List.foldl_nil]⟩

/-- What calls leave behind: what they take down one after the other, without repetitions. -/
theorem performAll_used (xs : List α) (calls : List (PathCall α)) :
    (l.performAll h xs.eraseDups calls).2 =
      (xs ++ calls.flatMap fun c => h.takenDown c.start).eraseDups := by
  -- induction on the calls: what the first one takes down goes in front
  induction calls generalizing xs with
  | nil => rw [performAll, List.flatMap_nil, List.append_nil]
  | cons c calls ih =>
    rw [performAll, List.flatMap_cons, ← List.append_assoc, ← ih, perform_used, foldl_note]

/-- The calls that succeed are those that take something down, or have nothing to take down. -/
theorem flatMap_succeeded (hnames : h.IsTextual) (hd : l.depth = .levels levels)
    (calls : List (PathCall α)) :
    ((calls.zip (l.performAll h used calls).1).filter fun c => c.2.isOk).flatMap
        (fun c => h.ancestors c.1.start) =
      calls.flatMap fun c => h.takenDown c.start := by
  -- induction on the calls, for any record that they start from
  induction calls generalizing used with
  | nil => rfl
  | cons c calls ih =>
    rw [performAll, List.zip_cons_cons, List.flatMap_cons, ← ih, Hierarchy.takenDown]
    -- the first call succeeds and takes down its ancestors, or fails and takes down nothing
    rcases perform_result hnames hd used c with ⟨hended, p, hp⟩ | ⟨hended, herror⟩
    · rw [hended, if_pos rfl, List.filter_cons_of_pos (by rw [hp]; rfl), List.flatMap_cons]
    · rw [hended, List.filter_cons_of_neg (by rw [herror]; exact nofun)]
      rfl

/-- Together with a super, all of its own supers have been taken down. -/
theorem closed_takenDown {a b : α} (ha : a ∈ h.takenDown b) :
    (climb h.parent a).ended = true ∧ ∀ s ∈ h.ancestors a, s ∈ h.takenDown b := by
  unfold Hierarchy.takenDown at ha
  split at ha
  · next hended =>
    -- what comes above a super that the climb has reached is what the climb has reached next
    have hclimb : climb h.parent b = ⟨h.ancestors b, true⟩ := by rw [← hended]; rfl
    obtain ⟨above, habove, hsuffix⟩ := climb_of_mem hclimb ha
    refine ⟨by rw [habove], fun s hs => ?_⟩
    rw [Hierarchy.ancestors, habove] at hs
    rw [Hierarchy.takenDown, if_pos hended]
    exact hsuffix.subset (List.mem_cons_of_mem a hs)
  · exact nomatch ha

/-- The record after some calls: the ancestors of those that have succeeded, each one where it first
    came. So there are no repetitions, and with each super all of its own are there. -/
structure IsRecord (h : Hierarchy α) (calls : List (PathCall α))
    (results : List (Except LayoutError NormalPath)) (used : List α) : Prop where
  exact : used = (((calls.zip results).filter fun c => c.2.isOk).flatMap
    fun c => h.ancestors c.1.start).eraseDups
  nodup : used.Nodup
  closed : ∀ a ∈ used, (climb h.parent a).ended = true ∧ ∀ b ∈ h.ancestors a, b ∈ used

/-- After any calls, the supers in use are the exact record of those that have succeeded, whatever
    the depth. Each further call only adds to them, and fails only if the ancestors have no end;
    then it adds nothing. -/
theorem used_performAll (hnames : h.IsTextual) (hd : l.depth = .levels levels)
    (calls : List (PathCall α)) :
    IsRecord h calls (l.performAll h [] calls).1 (l.performAll h [] calls).2 ∧
      (∀ c, (l.performAll h [] calls).2 <+: (l.perform h (l.performAll h [] calls).2 c).2 ∧
        ∀ e, (l.perform h (l.performAll h [] calls).2 c).1 = .error e →
          e = .hierarchy ⟨h.name c.start⟩ ∧
            (l.perform h (l.performAll h [] calls).2 c).2 = (l.performAll h [] calls).2) ∧
      ∀ l' : Layout, (l'.performAll h [] calls).2 = (l.performAll h [] calls).2 := by
  -- the depth does not appear in what is taken down, so all layouts leave the same record
  have hused : ∀ l' : Layout, (l'.performAll h [] calls).2 =
      (calls.flatMap fun c => h.takenDown c.start).eraseDups :=
    fun l' => performAll_used [] calls
  refine ⟨⟨?_, ?_, ?_⟩, fun c => ⟨prefix_perform, fun e he => perform_of_error hnames hd he⟩, ?_⟩
  · rw [flatMap_succeeded hnames hd, hused]
  · -- no repetitions, since they have been removed at the end
    rw [hused]
    exact nodup_eraseDups _
  · intro a ha
    -- a super comes from one call, and its own supers from the same one
    rw [hused, List.mem_eraseDups, List.mem_flatMap] at ha
    obtain ⟨c, hc, hmem⟩ := ha
    obtain ⟨hended, hclosed⟩ := closed_takenDown hmem
    refine ⟨hended, fun b hb => ?_⟩
    rw [hused, List.mem_eraseDups, List.mem_flatMap]
    exact ⟨c, hc, hclosed b hb⟩
  · intro l'
    rw [hused l', hused l]

/-- Two structs share their supers, two are each other's super, and all have one name. -/
def shared : Hierarchy (Fin 6) where
  name _ := .text "Pawn"
  parent
    | 0 => some 1
    | 1 => some 2
    | 2 => none
    | 3 => some 1
    | 4 => some 5
    | 5 => some 4

/-- The first call fails after one super, the second one finds two, and the third one nothing
    new. -/
theorem used_performAll_shared :
    ∃ results, (⟨.ofString "scripts", .levels 1⟩ : Layout).performAll shared []
        [⟨4, true, none⟩, ⟨0, true, none⟩, ⟨3, false, some ("jump", true)⟩] = (results, [1, 2]) ∧
      results.map (·.isOk) = [false, true, true] ∧ (climb shared.parent 4).reached = [5] ∧
      IsRecord shared [⟨4, true, none⟩, ⟨0, true, none⟩, ⟨3, false, some ("jump", true)⟩] results
        [1, 2] :=
  ⟨_, rfl, rfl, rfl, (used_performAll (h := shared) (l := ⟨.ofString "scripts", .levels 1⟩)
    (fun _ => ⟨"Pawn", rfl⟩) rfl
    [⟨4, true, none⟩, ⟨0, true, none⟩, ⟨3, false, some ("jump", true)⟩]).1⟩

end Layout

end ScriptBindings

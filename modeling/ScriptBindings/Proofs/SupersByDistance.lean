import ScriptBindings.Proofs.Climbing

/-!
# Supers by their distance

A parent function leads from a start through a line of supers, through a ring, or through a line
into a ring. Where a climb stops can be told by distances alone: how many steps up there is no super
any more, and how many steps up the start comes back. All other shapes are told from these two by
the budget of the climb.

## Key results

- `chain_iff`: a chain to the top by the distances of its members
- `climbFrom_through`: a climb goes on behind the supers that it has come through
- `climb_of_ends`, `climb_of_stops`: what a climb reaches, with and without an end
- `climb_exact`: every climb ends or gives up, and after which supers
-/

namespace ScriptBindings

variable {α : Type} {up : α → Option α} {start a : α} {next : Option α} {as : List α} {m n k : Nat}

/-! ## Steps -/

/-- What stands `n` steps above `next`, if there are so many steps. -/
def stepsUp (up : α → Option α) : (n : Nat) → (next : Option α) → Option α
  | 0, next => next
  | n + 1, next => stepsUp up n (next.bind up)

/-- The super of `start` that is `n` steps above it. The start is no step above itself. -/
def superAt (up : α → Option α) (start : α) (n : Nat) : Option α :=
  stepsUp up n (some start)

/-- There is nothing above nothing. -/
theorem stepsUp_none (n : Nat) : stepsUp up n none = none := by
  induction n with
  | zero => rfl
  | succ n ih => exact ih

/-- Steps add up. -/
theorem stepsUp_add (m n : Nat) (next : Option α) :
    stepsUp up (m + n) next = stepsUp up n (stepsUp up m next) := by
  -- induction on the first steps, from any place
  induction m generalizing next with
  | zero => rw [Nat.zero_add]; rfl
  | succ m ih =>
    rw [Nat.add_right_comm]
    exact ih (next.bind up)

/-- Above the first step there is what stands above the super. -/
theorem superAt_succ (n : Nat) : superAt up start (n + 1) = stepsUp up n (up start) := rfl

/-- Supers at one distance have the same supers above them. -/
theorem superAt_add_eq {i j : Nat} (h : superAt up start i = superAt up start j) (n : Nat) :
    superAt up start (i + n) = superAt up start (j + n) := by
  simp only [superAt, stepsUp_add] at h ⊢
  rw [h]

/-- Below a super there is one at every distance. -/
theorem superAt_ne_none_of_le (h : superAt up start n ≠ none) (hle : m ≤ n) :
    superAt up start m ≠ none := by
  intro hnone
  apply h
  -- the way to the distance `n` leads past the distance `m`
  have hsplit : n = m + (n - m) := by omega
  rw [hsplit, superAt, stepsUp_add]
  show stepsUp up (n - m) (superAt up start m) = none
  rw [hnone, stepsUp_none]

/-! ## Lists of supers -/

/-- The list has what stands at the first `n` places from `next` on, and there is something at each
    of them. -/
def Through (up : α → Option α) (next : Option α) (n : Nat) (as : List α) : Prop :=
  as.map some = (List.range n).map fun i => stepsUp up i next

/-- The list has the supers of `start` up to the distance `n`, nearest first. -/
def FirstSupers (up : α → Option α) (start : α) (n : Nat) (as : List α) : Prop :=
  as.map some = (List.range n).map fun i => superAt up start (i + 1)

/-- The first place is that of the head, and the others are counted from its super on. -/
theorem through_cons :
    Through up next (n + 1) (a :: as) ↔ next = some a ∧ Through up (up a) n as := by
  unfold Through
  -- the first place is taken out, and the others are renumbered
  rw [List.range_succ_eq_map, List.map_cons, List.map_cons, List.map_map, List.cons.injEq]
  constructor
  · rintro ⟨hhead, htail⟩
    have hnext : next = some a := hhead.symm
    subst hnext
    exact ⟨rfl, htail⟩
  · rintro ⟨rfl, htail⟩
    exact ⟨rfl, htail⟩

/-- The supers of `start` stand from its own super on. -/
theorem firstSupers_iff : FirstSupers up start n as ↔ Through up (up start) n as := Iff.rfl

/-- There are as many members as places. -/
theorem Through.length (h : Through up next n as) : as.length = n := by
  have hlength := congrArg List.length h
  simpa using hlength

/-- What stands at all places makes a list. -/
theorem exists_through (h : ∀ i < n, stepsUp up i next ≠ none) : ∃ as, Through up next n as := by
  -- induction on the number of places, from any place on
  induction n generalizing next with
  | zero => exact ⟨[], rfl⟩
  | succ n ih =>
    obtain ⟨a, ha⟩ := Option.ne_none_iff_exists'.mp (h 0 (by omega))
    have hnext : next = some a := ha
    subst hnext
    obtain ⟨as, has⟩ := ih fun i hi => h (i + 1) (by omega)
    exact ⟨a :: as, through_cons.mpr ⟨rfl, has⟩⟩

/-- The members of a list of supers stand at its distances. -/
theorem FirstSupers.exists_superAt (h : FirstSupers up start n as) (ha : a ∈ as) :
    ∃ i, 0 < i ∧ i ≤ n ∧ superAt up start i = some a := by
  -- a member of the list is what stands at one of its places
  have hmem : some a ∈ as.map some := List.mem_map_of_mem ha
  rw [h, List.mem_map] at hmem
  obtain ⟨i, hi, hsuper⟩ := hmem
  rw [List.mem_range] at hi
  exact ⟨i + 1, by omega, by omega, hsuper⟩

/-- A chain goes through all places until there is nothing any more. -/
theorem chain_iff :
    -- induction on the list, which has one member for each step of the chain
    Chain up next as ↔ Through up next as.length as ∧ stepsUp up as.length next = none := by
  induction as generalizing next with
  | nil =>
    constructor
    · intro h
      cases h
      exact ⟨rfl, rfl⟩
    · rintro ⟨-, hnone⟩
      have hnext : next = none := hnone
      subst hnext
      exact .top
  | cons a as ih =>
    rw [List.length_cons, through_cons]
    constructor
    · intro h
      cases h with
      | step hrest =>
        obtain ⟨hthrough, hnone⟩ := ih.mp hrest
        exact ⟨⟨rfl, hthrough⟩, hnone⟩
    · rintro ⟨⟨rfl, hthrough⟩, hnone⟩
      exact .step (ih.mpr ⟨hthrough, hnone⟩)

/-! ## Where climbs stop -/

/-- The line of supers of `start` has `k` members: one step further there is none for the first
    time. -/
def EndsAfter (up : α → Option α) (start : α) (k : Nat) : Prop :=
  superAt up start (k + 1) = none ∧ ∀ i ≤ k, superAt up start i ≠ none

/-- The supers come back to `start` after `c` steps, and not before. -/
def ReturnsAfter (up : α → Option α) (start : α) (c : Nat) : Prop :=
  0 < c ∧ superAt up start c = some start ∧ ∀ i, 0 < i → i < c → superAt up start i ≠ some start

/-- A climb without an end stops behind `m` supers: before it comes back to the start, or when it
    has used up its budget. -/
inductive StopsAfter (up : α → Option α) (start : α) : (m : Nat) → Prop
  | returned {c : Nat} : ReturnsAfter up start c → StopsAfter up start (min 256 (c - 1))
  | exhausted : (∀ c, ¬ ReturnsAfter up start c) → StopsAfter up start 256

/-- If there is no super at some distance, then there is a distance where the line ends. -/
theorem exists_endsAfter (h : superAt up start n = none) : ∃ k < n, EndsAfter up start k := by
  -- either the line has ended earlier, or this is where it ends
  induction n with
  | zero => exact nomatch h
  | succ n ih =>
    by_cases hn : superAt up start n = none
    · obtain ⟨k, hk, hends⟩ := ih hn
      exact ⟨k, by omega, hends⟩
    · exact ⟨n, by omega, h, fun i hi => superAt_ne_none_of_le hn hi⟩

/-- If the start comes back, it does so for a first time. -/
theorem exists_returnsAfter (hpos : 0 < n) (h : superAt up start n = some start) :
    ∃ c ≤ n, ReturnsAfter up start c := by
  -- strong induction, since the start may have come back anywhere before
  induction n using Nat.strongRecOn with
  | ind n ih =>
    by_cases hbefore : ∃ i, 0 < i ∧ i < n ∧ superAt up start i = some start
    · obtain ⟨i, hi, hlt, hstart⟩ := hbefore
      obtain ⟨c, hc, hreturns⟩ := ih i hlt hi hstart
      exact ⟨c, by omega, hreturns⟩
    · refine ⟨n, Nat.le_refl n, hpos, h, fun i hi hlt hstart => ?_⟩
      exact hbefore ⟨i, hi, hlt, hstart⟩

/-- The supers of a line that ends are all different, and none of them is the start. -/
theorem EndsAfter.eq_none (h : EndsAfter up start k) {i j : Nat} (hij : i < j)
    (heq : superAt up start i = superAt up start j) : superAt up start i = none := by
  by_contra hsome
  -- the second place lies within the line, as there is nothing behind its end
  have hj : j ≤ k := by
    by_contra hfar
    have hnone : superAt up start j = none := by
      by_contra hsuper
      exact superAt_ne_none_of_le hsuper (by omega : k + 1 ≤ j) h.1
    exact hsome (heq.trans hnone)
  -- one step behind the end of the line is as good as a place within it
  have hshift := superAt_add_eq heq (k + 1 - j)
  have hend : j + (k + 1 - j) = k + 1 := by omega
  rw [hend, h.1] at hshift
  exact h.2 (i + (k + 1 - j)) (by omega) hshift

variable [DecidableEq α]

/-- A climb goes on behind the supers that it has come through. -/
theorem climbFrom_through {budget : Nat} (h : Through up next n as) (hstart : start ∉ as) :
    climbFrom up start (n + budget) next =
      ⟨as ++ (climbFrom up start budget (stepsUp up n next)).reached,
        (climbFrom up start budget (stepsUp up n next)).ended⟩ := by
  -- induction on what the climb comes through, for any place and any budget behind it
  induction as generalizing n next with
  | nil =>
    obtain rfl : 0 = n := h.length
    rw [Nat.zero_add]
    rfl
  | cons a as ih =>
    obtain rfl : as.length + 1 = n := h.length
    obtain ⟨rfl, hrest⟩ := through_cons.mp h
    rw [List.mem_cons, not_or] at hstart
    have hstep := ih hrest hstart.2
    rw [Nat.add_right_comm, climbFrom, if_neg (Ne.symm hstart.1), hstep]
    rfl

/-- A climb ends if the line of supers is shorter than its budget, and has come through all of
    them. -/
theorem climb_of_ends (h : EndsAfter up start k) (hk : k ≤ 255) :
    (climb up start).ended = true ∧ FirstSupers up start k (climb up start).reached := by
  -- all places before the end are taken, so there is a list of supers
  obtain ⟨as, has⟩ : ∃ as, Through up (up start) k as :=
    exists_through fun i hi => h.2 (i + 1) (by omega)
  have hlength := has.length
  subst hlength
  have hclimb : climb up start = ⟨as, true⟩ := by
    apply climb_eq_ended.mpr
    refine ⟨chain_iff.mpr ⟨has, h.1⟩, ?_⟩
    show as.length < 256
    omega
  rw [hclimb]
  exact ⟨rfl, has⟩

/-- A climb ends only if the line of supers is shorter than its budget. -/
theorem exists_endsAfter_of_ended (h : (climb up start).ended = true) :
    ∃ k ≤ 255, EndsAfter up start k := by
  -- the climb is the chain of its own list, and that chain has an end
  have hclimb : climb up start = ⟨(climb up start).reached, true⟩ := by rw [← h]
  obtain ⟨hchain, hlength⟩ := climb_eq_ended.mp hclimb
  obtain ⟨-, hnone⟩ := chain_iff.mp hchain
  rw [← superAt_succ] at hnone
  obtain ⟨k, hk, hends⟩ := exists_endsAfter hnone
  have hbudget : (climb up start).reached.length < 256 := hlength
  exact ⟨k, by omega, hends⟩

/-- A climb that has come through `m` supers other than the start reaches no more of them if its
    budget is used up or if the start comes next. -/
theorem climb_of_stops (hm : m ≤ 256) (hsupers : ∀ i ≤ m, superAt up start i ≠ none)
    (hother : ∀ i, 0 < i → i ≤ m → superAt up start i ≠ some start)
    (hstop : m = 256 ∨ superAt up start (m + 1) = some start) :
    (climb up start).ended = false ∧ FirstSupers up start m (climb up start).reached ∧
      start ∉ (climb up start).reached := by
  obtain ⟨as, has⟩ : ∃ as, FirstSupers up start m as :=
    exists_through fun i hi => hsupers (i + 1) (by omega)
  -- the start stands at none of the distances that the list covers
  have hstart : start ∉ as := by
    intro hmem
    obtain ⟨i, hpos, hle, hi⟩ := has.exists_superAt hmem
    exact hother i hpos hle hi
  have hrest : climbFrom up start (256 - m) (superAt up start (m + 1)) = ⟨[], false⟩ := by
    rcases hstop with rfl | hreturn
    · rfl
    · -- a step is left to see that the start comes next, or none is left at all
      cases 256 - m with
      | zero => rfl
      | succ budget => rw [hreturn, climbFrom, if_pos rfl]
  -- the budget is split: so many steps for the list, and the rest for what comes behind it
  have hclimb : climb up start = ⟨as, false⟩ := by
    have hbudget : maxAncestors = m + (256 - m) := by
      show 256 = m + (256 - m)
      omega
    rw [climb, hbudget, climbFrom_through (firstSupers_iff.mp has) hstart, ← superAt_succ, hrest,
      List.append_nil]
  rw [hclimb]
  exact ⟨rfl, has, hstart⟩

/-- A climb without an end within its budget gives up. -/
theorem climb_of_no_end (h : ¬ ∃ k ≤ 255, EndsAfter up start k) :
    ∃ m, StopsAfter up start m ∧ (climb up start).ended = false ∧
      FirstSupers up start m (climb up start).reached ∧ start ∉ (climb up start).reached := by
  -- as far as the budget goes there are supers, or there would be an end
  have hsupers : ∀ i ≤ 256, superAt up start i ≠ none := by
    intro i hi hnone
    obtain ⟨k, hk, hends⟩ := exists_endsAfter hnone
    exact h ⟨k, by omega, hends⟩
  by_cases hreturn : ∃ c, ReturnsAfter up start c
  · -- the last super before the start is one step below it, or behind the budget
    obtain ⟨c, hc⟩ := hreturn
    refine ⟨_, .returned hc, ?_⟩
    obtain ⟨hpos, hstart, hfirst⟩ := hc
    apply climb_of_stops
    · omega
    · exact fun i hi => hsupers i (by omega)
    · exact fun i hi hle => hfirst i hi (by omega)
    · by_cases hfar : 256 ≤ c - 1
      · left
        omega
      · right
        have hnext : min 256 (c - 1) + 1 = c := by omega
        rw [hnext, hstart]
  · refine ⟨256, .exhausted fun c hc => hreturn ⟨c, hc⟩, ?_⟩
    apply climb_of_stops (Nat.le_refl 256) hsupers
    · -- the start never comes back, so it is not met within the budget either
      intro i hi _ hstart
      obtain ⟨c, -, hc⟩ := exists_returnsAfter hi hstart
      exact hreturn ⟨c, hc⟩
    · exact .inl rfl

/-- Every climb ends or gives up. It ends exactly if the line of supers has at most 255 members, and
    has then come through all of them. Otherwise it has come through those before the start comes
    back, or through 256 if that is further or never. It never reaches its start, and does not end
    where some super comes back. The ancestors of a struct in a model are told by such a climb. -/
theorem climb_exact (up : α → Option α) (start : α) :
    (∀ k ≤ 255, EndsAfter up start k →
      (climb up start).ended = true ∧ FirstSupers up start k (climb up start).reached) ∧
    ((¬ ∃ k ≤ 255, EndsAfter up start k) →
      (climb up start).ended = false ∧
        ∃ m, StopsAfter up start m ∧ FirstSupers up start m (climb up start).reached) ∧
    start ∉ (climb up start).reached ∧
    ((climb up start).ended = true → ∀ i j, i < j →
      superAt up start i = superAt up start j → superAt up start i = none) ∧
    ∀ (m : Model) (name : Scalar),
      (∃ k ≤ 255, EndsAfter m.parent? name k ∧
        ∃ as, m.ancestors? name = .ok as ∧ FirstSupers m.parent? name k as) ∨
      ((¬ ∃ k ≤ 255, EndsAfter m.parent? name k) ∧ m.ancestors? name = .error ⟨name⟩) := by
  refine ⟨fun k hk h => climb_of_ends h hk, fun h => ?_, ?_, fun hended i j hij heq => ?_,
    fun m name => ?_⟩
  · -- without an end, the climb gives up where it has to
    obtain ⟨m, hstops, hended, hsupers, -⟩ := climb_of_no_end h
    exact ⟨hended, m, hstops, hsupers⟩
  · by_cases h : ∃ k ≤ 255, EndsAfter up start k
    · -- on a line that ends the start has no place but its own
      obtain ⟨k, hk, hends⟩ := h
      obtain ⟨-, hsupers⟩ := climb_of_ends hends hk
      intro hmem
      obtain ⟨i, hpos, -, hi⟩ := hsupers.exists_superAt hmem
      exact absurd (hends.eq_none hpos hi.symm) (by simp [superAt, stepsUp])
    · obtain ⟨m, -, -, -, hstart⟩ := climb_of_no_end h
      exact hstart
  · -- a climb that ends has a line with an end, which repeats nothing
    obtain ⟨k, -, hends⟩ := exists_endsAfter_of_ended hended
    exact hends.eq_none hij heq
  · -- the supers of a struct are such a climb, with the parents of the model
    by_cases h : ∃ k ≤ 255, EndsAfter m.parent? name k
    · obtain ⟨k, hk, hends⟩ := h
      obtain ⟨hended, hsupers⟩ := climb_of_ends hends hk
      refine .inl ⟨k, hk, hends, _, ?_, hsupers⟩
      exact if_pos hended
    · obtain ⟨-, -, hended, -⟩ := climb_of_no_end h
      refine .inr ⟨h, ?_⟩
      exact if_neg (by simpa [Model.ancestors] using hended)

/-- Two steps lead into a ring of three, in which the start does not lie. -/
example : ((climb (fun n : Fin 5 => if n < 4 then some (n + 1) else some 2) 0).reached.length,
    (climb (fun n : Fin 5 => if n < 4 then some (n + 1) else some 2) 2).reached) =
      (256, [3, 4]) := by
  decide +kernel

end ScriptBindings

import Mathlib.Data.List.Basic
import ScriptBindings.Model.Ancestors

/-!
# Climbs that come to an end

A climb to the top goes through a chain: each one above the next, until there is none. There is at
most one chain from a given place on, and nothing stands above itself in it. A climb ends exactly if
there is such a chain and the budget leaves a step to see its end.

## Key results

- `Chain.unique`: there is one chain from a given place on
- `Chain.not_mem`: nothing stands above itself
- `climb_eq_ended`: which climbs come to an end
- `climb_of_mem`: whoever is reached by a climb that ends has a climb that ends
-/

namespace ScriptBindings

variable {α : Type} {up : α → Option α}

/-- From `next` on, `up` leads through the listed ones and then to none. -/
inductive Chain (up : α → Option α) : (next : Option α) → List α → Prop
  | top : Chain up none []
  | step {a : α} {as : List α} : Chain up (up a) as → Chain up (some a) (a :: as)

namespace Chain

variable {next : Option α} {as bs : List α} {a b : α}

/-- There is one chain from a given place on. -/
theorem unique (h : Chain up next as) (h' : Chain up next bs) : as = bs := by
  -- induction on the first chain, which the second one has to follow
  induction h generalizing bs with
  | top =>
    cases h'
    rfl
  | step _ ih =>
    cases h' with
    | step h' => rw [ih h']

/-- The chain above a member is what comes behind that member. -/
theorem above (h : Chain up next as) (hb : b ∈ as) :
    ∃ bs, Chain up (up b) bs ∧ (b :: bs) <:+ as := by
  -- induction on the chain: the member is its first one or comes further up
  induction h with
  | top => exact nomatch hb
  | @step a as hrest ih =>
    rcases List.mem_cons.mp hb with rfl | hmem
    · exact ⟨as, hrest, List.suffix_refl _⟩
    · obtain ⟨bs, hbs, hsuffix⟩ := ih hmem
      exact ⟨bs, hbs, hsuffix.trans (List.suffix_cons a as)⟩

/-- Nothing stands above itself. -/
theorem not_mem (h : Chain up (up a) as) : a ∉ as := by
  intro hmem
  obtain ⟨bs, hbs, hsuffix⟩ := h.above hmem
  -- the chain above the second occurrence would be the whole chain, but it is shorter
  have hlength := hsuffix.length_le
  rw [h.unique hbs, List.length_cons] at hlength
  omega

end Chain

variable [DecidableEq α] {start : α}

/-- A climb ends if there is a chain that does not lead through the start, and a step is left to see
    its end. -/
theorem climbFrom_eq_ended {budget : Nat} {next : Option α} {as : List α} :
    climbFrom up start budget next = ⟨as, true⟩ ↔
      Chain up next as ∧ as.length < budget ∧ start ∉ as := by
  -- induction on the budget, for any place that the climb has come to
  induction budget generalizing next as with
  | zero => simp [climbFrom]
  | succ budget ih =>
    cases next with
    -- the climb ends here, and so does the chain
    | none =>
      constructor
      · intro h
        obtain rfl : [] = as := (Climb.mk.inj h).1
        exact ⟨.top, Nat.succ_pos _, List.not_mem_nil⟩
      · rintro ⟨⟨⟩, -, -⟩
        rfl
    | some a =>
      by_cases ha : a = start
      · -- the climb has come back to where it began
        subst ha
        simp only [climbFrom, if_pos, Climb.mk.injEq, Bool.false_eq_true, and_false, false_iff]
        rintro ⟨⟨hrest⟩, -, hstart⟩
        exact hstart List.mem_cons_self
      · -- one step up, and then a climb with less budget
        have hstep : climbFrom up start (budget + 1) (some a) =
            ⟨a :: (climbFrom up start budget (up a)).reached,
              (climbFrom up start budget (up a)).ended⟩ := by rw [climbFrom, if_neg ha]
        rw [hstep]
        constructor
        · intro h
          -- the rest of the climb ends if the rest of the chain avoids the start
          obtain ⟨rfl, hended⟩ := Climb.mk.inj h
          have hrest := congrArg (Climb.mk (climbFrom up start budget (up a)).reached) hended
          obtain ⟨hchain, hlength, hstart⟩ := ih.mp hrest
          refine ⟨.step hchain, Nat.succ_lt_succ hlength, ?_⟩
          rw [List.mem_cons, not_or]
          exact ⟨fun heq => ha heq.symm, hstart⟩
        · rintro ⟨hchain, hlength, hstart⟩
          cases hchain with
          | step hchain =>
            rw [List.mem_cons, not_or] at hstart
            rw [ih.mpr ⟨hchain, Nat.lt_of_succ_lt_succ hlength, hstart.2⟩]

/-- A climb ends if there is a chain of fewer supers than it goes through. -/
theorem climb_eq_ended {as : List α} :
    climb up start = ⟨as, true⟩ ↔ Chain up (up start) as ∧ as.length < maxAncestors := by
  -- a chain never comes back to its start, so that condition can be left out
  rw [climb, climbFrom_eq_ended]
  constructor
  · rintro ⟨hchain, hlength, -⟩
    exact ⟨hchain, hlength⟩
  · rintro ⟨hchain, hlength⟩
    exact ⟨hchain, hlength, hchain.not_mem⟩

/-- Whoever is reached by a climb that ends has a climb that ends, which reaches nobody else. -/
theorem climb_of_mem {as : List α} {b : α} (h : climb up start = ⟨as, true⟩) (hb : b ∈ as) :
    ∃ bs, climb up b = ⟨bs, true⟩ ∧ (b :: bs) <:+ as := by
  -- what is above a member has fewer supers, so the budget suffices for it too
  obtain ⟨hchain, hlength⟩ := climb_eq_ended.mp h
  obtain ⟨bs, hbs, hsuffix⟩ := hchain.above hb
  have hshorter := hsuffix.length_le
  rw [List.length_cons] at hshorter
  exact ⟨bs, climb_eq_ended.mpr ⟨hbs, by omega⟩, hsuffix⟩

end ScriptBindings

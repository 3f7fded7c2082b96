import Mathlib.Data.List.Forall2
import Mathlib.Data.List.Induction

/-!
# Lists that are gone through in order

Facts about lists of declarations, contents and steps: which one is the last of its sort, which ones
are left when repetitions are taken out, and what a computation that may fail makes of all of them.

## Key results

- `getLast?_filter_concat`: one more element is the last one of its sort
- `eraseDups_concat`, `nodup_eraseDups`: one more element is a repetition or comes last
- `mapM_eq_ok`: a computation succeeds for a list if it does so for each element
- `foldlM_induction`: what each step keeps is kept by all steps
- `FirstFault.bind`, `FirstFault.mapM`, `FirstFault.foldlM`: which one of several faults is reported
-/

/-- What relates two values also relates them when they may be left out. -/
theorem Option.Rel.imp {α β : Type} {R S : α → β → Prop} (h : ∀ a b, R a b → S a b)
    {a : Option α} {b : Option β} (hrel : Option.Rel R a b) : Option.Rel S a b := by
  cases hrel with
  | none => exact .none
  | some hab => exact .some (h _ _ hab)

/-- What is related to one value has no choice in what the relations fix. -/
theorem Option.Rel.map_eq {α β γ : Type} {R R' : α → β → Prop} {f : β → γ} {a : Option α}
    {b b' : Option β} (h : Option.Rel R a b) (h' : Option.Rel R' a b')
    (hfixed : ∀ x ∈ a, ∀ y y', R x y → R' x y' → f y' = f y) : b'.map f = b.map f := by
  cases h with
  | none =>
    cases h'
    rfl
  | @some x y hy =>
    cases h' with
    | @some _ y' hy' => exact congrArg Option.some (hfixed x rfl y y' hy hy')

namespace ScriptBindings

variable {α β σ ε : Type}

/-- One more element is the last one of its sort, and the last one of no other sort. -/
theorem getLast?_filter_concat (P : α → Bool) (xs : List α) (x : α) :
    ((xs ++ [x]).filter P).getLast? = if P x then some x else (xs.filter P).getLast? := by
  -- the filter keeps the new element or drops it
  by_cases h : P x = true
  · simp [List.filter_append, h]
  · simp [List.filter_append, h]

/-- One more element is a repetition, or comes last when repetitions are taken out. -/
theorem eraseDups_concat [DecidableEq α] (xs : List α) (x : α) :
    (xs ++ [x]).eraseDups = if x ∈ xs then xs.eraseDups else xs.eraseDups ++ [x] := by
  rw [List.eraseDups_append]
  -- the new element is among those before, or it is the only one that is not
  by_cases h : x ∈ xs
  · simp [List.removeAll, h]
  · simp [List.removeAll, h, List.eraseDups_cons]

/-- What is left without repetitions has none. -/
theorem nodup_eraseDups [DecidableEq α] (xs : List α) : xs.eraseDups.Nodup := by
  -- induction from the end, where new elements come in
  induction xs using List.reverseRecOn with
  | nil => exact List.nodup_nil
  | append_singleton xs x ih =>
    rw [eraseDups_concat]
    split
    · exact ih
    · next hx =>
      have hnew : x ∉ xs.eraseDups := fun hmem => hx (List.mem_eraseDups.mp hmem)
      exact List.nodup_append.mpr ⟨ih, List.pairwise_singleton _ x, fun a ha b hb hab =>
        hnew (List.mem_singleton.mp hb ▸ hab ▸ ha)⟩

/-- A computation that goes on after another one succeeds if both do. -/
theorem bind_eq_ok {x : Except ε α} {f : α → Except ε β} {b : β} :
    x >>= f = .ok b ↔ ∃ a, x = .ok a ∧ f a = .ok b := by
  cases x with
  | error e => simp [bind, Except.bind]
  | ok a => simp [bind, Except.bind]

/-- A computation whose result is changed succeeds if it does so without the change. -/
theorem map_eq_ok {x : Except ε α} {f : α → β} {b : β} :
    f <$> x = .ok b ↔ ∃ a, x = .ok a ∧ f a = b := by
  cases x with
  | error e => simp
  | ok a => simp

/-- A computation succeeds for a list if it does so for each element. -/
theorem mapM_eq_ok {f : α → Except ε β} {xs : List α} {ys : List β} :
    xs.mapM f = .ok ys ↔ List.Forall₂ (fun x y => f x = .ok y) xs ys := by
  -- induction on the list: the first element, and then the rest
  induction xs generalizing ys with
  | nil => simp [pure, Except.pure, eq_comm]
  | cons x xs ih =>
    rw [List.mapM_cons, bind_eq_ok, List.forall₂_cons_left_iff]
    constructor
    · rintro ⟨y, hy, hrest⟩
      obtain ⟨ys', hys', heq⟩ := bind_eq_ok.mp hrest
      exact ⟨y, ys', hy, ih.mp hys', (Except.ok.inj heq).symm⟩
    · rintro ⟨y, ys', hy, hys', rfl⟩
      exact ⟨y, hy, bind_eq_ok.mpr ⟨ys', ih.mpr hys', rfl⟩⟩

/-- What each step keeps is kept by all further steps. -/
private theorem foldlM_induction_from {f : σ → α → Except ε σ} {P : List α → σ → Prop}
    {done xs : List α} {s s' : σ} (hs : P done s)
    (hstep : ∀ done x s s', x ∈ xs → P done s → f s x = .ok s' → P (done ++ [x]) s')
    (h : xs.foldlM f s = .ok s') : P (done ++ xs) s' := by
  -- induction on what is left; what has been gone through grows by one element
  induction xs generalizing done s with
  | nil =>
    obtain rfl := Except.ok.inj h
    simpa using hs
  | cons x xs ih =>
    obtain ⟨s₁, hfirst, hrest⟩ := bind_eq_ok.mp h
    have := ih (hstep done x s s₁ List.mem_cons_self hs hfirst)
      (fun done y s s' hy => hstep done y s s' (List.mem_cons_of_mem _ hy)) hrest
    rwa [List.append_assoc, List.singleton_append] at this

/-- What each step keeps is kept by all steps. `P` tells what holds of the elements gone through and
    the state that they have led to. -/
theorem foldlM_induction {f : σ → α → Except ε σ} {P : List α → σ → Prop} {xs : List α} {s s' : σ}
    (hs : P [] s)
    (hstep : ∀ done x s s', x ∈ xs → P done s → f s x = .ok s' → P (done ++ [x]) s')
    (h : xs.foldlM f s = .ok s') : P xs s' :=
  foldlM_induction_from hs hstep h

/-! ## The first fault -/

/-- A computation fails with the first one of some faults, and succeeds if there is none. -/
def FirstFault (x : Except ε α) (faults : List ε) : Prop :=
  ∀ e, x = .error e ↔ faults.head? = some e

namespace FirstFault

variable {x : Except ε α} {faults rest : List ε}

/-- What succeeds has no faults. -/
theorem ok (a : α) : FirstFault (.ok a) ([] : List ε) := by simp [FirstFault]

/-- What fails has one fault. -/
theorem error (e : ε) : FirstFault (.error e : Except ε α) [e] := by simp [FirstFault]

/-- A computation succeeds if it has no faults. -/
theorem succeeds (h : FirstFault x faults) : (∃ a, x = .ok a) ↔ faults = [] := by
  -- a fault and a failure come together, so neither is there without the other
  cases x with
  | error e =>
    have hhead := (h e).mp rfl
    cases faults with
    | nil => exact nomatch hhead
    | cons _ _ => simp
  | ok a =>
    cases faults with
    | nil => simp
    | cons e _ => exact nomatch (h e).mpr rfl

/-- The faults of a computation come before those of the one that goes on after it. -/
theorem bind {f : α → Except ε β} (h : FirstFault x faults)
    (hf : ∀ a, x = .ok a → FirstFault (f a) rest) : FirstFault (x >>= f) (faults ++ rest) := by
  -- if the first computation fails, its first fault is the first of all
  cases x with
  | error e₀ =>
    intro e
    rw [List.head?_append, (h e₀).mp rfl]
    exact Iff.trans (by simp [Bind.bind, Except.bind]) Option.some_inj.symm
  | ok a =>
    -- if it succeeds, it has no faults, and the others decide
    rw [h.succeeds.mp ⟨a, rfl⟩, List.nil_append]
    exact hf a rfl

/-- Changing the result leaves the faults. -/
theorem map (f : α → β) (h : FirstFault x faults) : FirstFault (f <$> x) faults := by
  intro e
  rw [← h e]
  cases x with
  | error _ => simp
  | ok _ => simp

/-- The faults of the elements of a list, in order. -/
theorem mapM {γ : Type} {f : γ → Except ε β} {faultsOf : γ → List ε} {ys : List γ}
    (h : ∀ y ∈ ys, FirstFault (f y) (faultsOf y)) :
    FirstFault (ys.mapM f) (ys.flatMap faultsOf) := by
  -- induction on the list: the faults of the first element stand before all others
  induction ys with
  | nil => exact ok []
  | cons y ys ih =>
    rw [List.mapM_cons, List.flatMap_cons]
    refine (h y List.mem_cons_self).bind fun b _ => ?_
    exact (ih fun z hz => h z (List.mem_cons_of_mem _ hz)).map (b :: ·)

/-- The faults of steps that are made one after the other, as long as the steps keep what their
    faults depend on. -/
theorem foldlM {γ : Type} {f : σ → γ → Except ε σ} {faultsOf : γ → List ε} {P : σ → Prop}
    {ys : List γ} {s : σ} (hs : P s)
    (hkeep : ∀ s y s', y ∈ ys → P s → f s y = .ok s' → P s')
    (h : ∀ s y, y ∈ ys → P s → FirstFault (f s y) (faultsOf y)) :
    FirstFault (ys.foldlM f s) (ys.flatMap faultsOf) := by
  -- induction on the steps, with the state that the first one leads to
  induction ys generalizing s with
  | nil => exact ok s
  | cons y ys ih =>
    rw [List.foldlM_cons, List.flatMap_cons]
    refine (h s y List.mem_cons_self hs).bind fun s' hs' => ?_
    exact ih (hkeep s y s' List.mem_cons_self hs hs')
      (fun s z s' hz => hkeep s z s' (List.mem_cons_of_mem _ hz))
      (fun s z hz => h s z (List.mem_cons_of_mem _ hz))

end FirstFault

end ScriptBindings

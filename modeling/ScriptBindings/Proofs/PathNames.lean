import Mathlib.Data.List.Basic
import ScriptBindings.Staging

/-!
# Names in paths

The names that a path goes through, compared with those of its parent and of the
temporary path beside it, and what the normal form says about them.

## Key results

- `names_append`: a path goes through the names of its first parts, then through the others
- `withSuffix?_eq_some`: a temporary path differs from its destination in the last part only
- `splitSlashes_append`: a slash parts the pieces before it from those behind it
- `piecesOf_singleName`: a part that is one name goes through dots and that name
- `slash_not_mem_of_singleName`: a part that is one name, and no dots, has no slashes
- `IsNormal.names_eq`: a path in normal form goes through its parts
- `faultOf?_append`: what is wrong with the beginning of a path is wrong with the path
-/

namespace ScriptBindings.FilePath

/-! ## Pieces -/

/-- A text without slashes is one piece. -/
theorem splitSlashes_of_not_mem (cs : List Char) (h : '/' ∉ cs) : splitSlashes cs = [cs] := by
  induction cs with
  | nil => rfl
  | cons c cs ih =>
    simp only [List.mem_cons, not_or] at h
    simp only [splitSlashes, if_neg (Ne.symm h.1), ih h.2]

/-- There is one piece more than there are slashes. -/
theorem length_splitSlashes (cs : List Char) :
    (splitSlashes cs).length = cs.count '/' + 1 := by
  induction cs with
  | nil => rfl
  | cons c cs ih =>
    by_cases hc : c = '/'
    · -- a slash begins a new piece, and any other character goes into the first one
      rw [splitSlashes, if_pos hc, List.length_cons, ih, hc, List.count_cons_self]
    · rw [splitSlashes, if_neg hc, List.count_cons_of_ne hc, ← ih]
      cases hs : splitSlashes cs with
      | nil => simp [hs] at ih
      | cons piece pieces => rfl

/-- A slash parts the pieces before it from those behind it. -/
theorem splitSlashes_append (xs ys : List Char) :
    splitSlashes (xs ++ '/' :: ys) = splitSlashes xs ++ splitSlashes ys := by
  induction xs with
  | nil => simp [splitSlashes]
  | cons c cs ih =>
    rw [List.cons_append, splitSlashes, splitSlashes, ih]
    by_cases hc : c = '/'
    · rw [if_pos hc, if_pos hc, List.cons_append]
    · -- the character goes to the first piece, which is one of those before the slash
      rw [if_neg hc, if_neg hc]
      cases hs : splitSlashes cs with
      | nil => exact absurd (length_splitSlashes cs) (by simp [hs])
      | cons piece pieces => rfl

/-- The parts of a text are the names that it goes through, apart from dots. -/
theorem partsOf_eq_filter (s : String) : partsOf s = (piecesOf s).filter (· ≠ ".") := by
  unfold partsOf piecesOf
  rw [List.filter_map, List.filter_filter]
  congr 1
  refine List.filter_congr fun piece _ => ?_
  have hdot : String.ofList piece = "." ↔ piece = ['.'] := by
    rw [← String.toList_inj]; simp
  -- the two filters differ in the empty piece only
  simp only [isIdle, Function.comp]
  by_cases he : piece = []
  · simp [he]
  · by_cases hd : piece = ['.']
    · simp [hd]
    · simp [he, hd, hdot]

/-- A name without slashes goes through itself only. -/
theorem piecesOf_of_not_mem {s : String} (hne : s ≠ "") (h : '/' ∉ s.toList) :
    piecesOf s = [s] := by
  have hs : s.toList ≠ [] := by simpa using hne
  simp [piecesOf, splitSlashes_of_not_mem _ h, hs]

/-- Names of which only one is not a dot, and which do not end in a dot. -/
theorem eq_dots_append_of_filter {names : List String} {name : String}
    (hone : names.filter (· ≠ ".") = [name]) (hlast : names.getLast? ≠ some ".") :
    ∃ i, names = List.replicate i "." ++ [name] := by
  induction names with
  | nil => simp at hone
  | cons x xs ih =>
    by_cases hx : x = "."
    · -- a dot in front changes neither the name nor the end
      subst hx
      cases xs with
      | nil => simp at hone
      | cons y ys =>
        obtain ⟨i, hi⟩ := ih (by simpa using hone) (by simpa using hlast)
        exact ⟨i + 1, by rw [hi, List.replicate_succ, List.cons_append]⟩
    · -- the rest are dots, and one of them would be the last name
      have hx' : decide (x ≠ ".") = true := by simpa using hx
      simp only [List.filter_cons, hx', if_true, List.cons.injEq] at hone
      obtain ⟨rfl, hdots⟩ := hone
      cases hxs : xs.getLast? with
      | none => exact ⟨0, by simpa using List.getLast?_eq_none_iff.mp hxs⟩
      | some z =>
        have hz : z = "." := by
          have := List.filter_eq_nil_iff.mp hdots z (List.mem_of_getLast? hxs)
          simpa using this
        exact absurd (by rw [List.getLast?_cons, hxs, hz]; rfl) hlast

/-- A text that is a single part goes through one name, with dots around it. -/
theorem piecesOf_singleName {s : String} (h : (partsOf s).length = 1)
    (hlast : (piecesOf s).getLast? ≠ some ".") :
    ∃ i name, piecesOf s = List.replicate i "." ++ [name] ∧ name ≠ "." := by
  obtain ⟨name, hname⟩ := List.length_eq_one_iff.mp h
  have hone := hname
  rw [partsOf_eq_filter] at hone
  obtain ⟨i, hi⟩ := eq_dots_append_of_filter hone hlast
  have hmem : name ∈ (piecesOf s).filter (· ≠ ".") := by rw [hone]; simp
  exact ⟨i, name, hi, by simpa using (List.mem_filter.mp hmem).2⟩

/-- A text of which all pieces are empty has nothing but slashes. -/
private theorem eq_slash_of_splitSlashes {cs : List Char}
    (h : ∀ piece ∈ splitSlashes cs, piece = []) : ∀ c ∈ cs, c = '/' := by
  induction cs with
  | nil => simp
  | cons c cs ih =>
    simp only [splitSlashes] at h
    by_cases hc : c = '/'
    · rw [if_pos hc] at h
      have hcs := ih fun piece hpiece => h piece (List.mem_cons_of_mem _ hpiece)
      simpa [hc] using hcs
    · rw [if_neg hc] at h
      split at h
      · -- the piece that the character begins is not empty
        exact absurd (h [c] List.mem_cons_self) (by simp)
      · exact absurd (h _ List.mem_cons_self) (by simp)

/-- A part with something behind it that makes a single name has no slashes, unless dots follow. -/
theorem slash_not_mem_of_singleName {part suffix name : String} {i : Nat}
    (hidle : isIdle part.toList = false) (hpart : '/' ∉ part.toList)
    (hpieces : piecesOf (part ++ suffix) = List.replicate i "." ++ [name])
    (hlast : (part ++ suffix).toList.getLast? ≠ some '/') : '/' ∉ (part ++ suffix).toList := by
  rw [String.toList_append, List.mem_append, not_or]
  refine ⟨hpart, fun hslash => hlast ?_⟩
  -- the first piece is no dot, so it is the name, and nothing but slashes follows
  obtain ⟨xs, ys, hsuffix, hxs⟩ := List.eq_append_cons_of_mem hslash
  have hfirst : '/' ∉ part.toList ++ xs := by simp [hpart, hxs]
  have htext : (part ++ suffix).toList = (part.toList ++ xs) ++ '/' :: ys := by
    rw [String.toList_append, hsuffix, List.append_assoc]
  have hne : part.toList ++ xs ≠ [] ∧ part.toList ++ xs ≠ ['.'] := by
    simp only [isIdle, decide_eq_false_iff_not, not_or] at hidle
    constructor
    · simp [hidle.1]
    · intro hdot
      rcases List.append_eq_cons_iff.mp hdot with ⟨hnil, -⟩ | ⟨rest, hrest, hnil⟩
      · exact hidle.1 hnil
      · have : rest = [] := by
          have := congrArg List.length hnil
          simp at this
          exact List.eq_nil_of_length_eq_zero (by omega)
        exact hidle.2 (by rw [hrest, this])
  rw [piecesOf, htext, splitSlashes_append, splitSlashes_of_not_mem _ hfirst,
    List.singleton_append] at hpieces
  have hkeep : (!(part.toList ++ xs).isEmpty) = true := by simpa using hne.1
  rw [List.filter_cons, if_pos hkeep, List.map_cons] at hpieces
  have hrest : (splitSlashes ys).filter (!·.isEmpty) = [] := by
    cases i with
    | zero => simpa using (List.cons.inj hpieces).2
    | succ i =>
      rw [List.replicate_succ, List.cons_append] at hpieces
      have hdot := congrArg String.toList (List.cons.inj hpieces).1
      exact absurd (by simpa using hdot) hne.2
  -- so the text ends in a slash, whether or not it has more than one
  have hslashes : ∀ c ∈ ys, c = '/' := eq_slash_of_splitSlashes fun piece hpiece => by
    simpa using List.filter_eq_nil_iff.mp hrest piece hpiece
  rw [htext, List.getLast?_append, List.getLast?_cons]
  cases hys : ys.getLast? with
  | none => rfl
  | some c => rw [hslashes c (List.mem_of_getLast? hys)]; rfl

/-! ## Names of a path -/

/-- A path goes through the names of its first parts, then through those of the others. -/
theorem names_append (root : PathRoot) (ps qs : List String) :
    names ⟨root, ps ++ qs⟩ = names ⟨root, ps⟩ ++ qs.flatMap piecesOf := by
  simp [names, List.flatMap_append]

/-- A temporary path lies beside its destination. Its last part is that of the destination with
    the suffix behind it, and is a single name. -/
theorem withSuffix?_eq_some {p temp : FilePath} {suffix : String}
    (h : p.withSuffix? suffix = some temp) :
    ∃ name, p.parts = p.parent.parts ++ [name] ∧
      temp = ⟨p.root, p.parent.parts ++ [name ++ suffix]⟩ ∧
      (partsOf (name ++ suffix)).length = 1 ∧
      (name ++ suffix).toList.getLast? ≠ some '/' := by
  unfold withSuffix? at h
  cases hn : p.name? with
  | none => simp [hn] at h
  | some name =>
    simp only [hn] at h
    split at h
    · rename_i hc
      refine ⟨name, ?_, (Option.some.inj h).symm, hc.1, hc.2⟩
      -- the last part is what the suffix is put behind
      obtain ⟨outer, ho⟩ := List.getLast?_eq_some_iff.mp hn
      simp [parent, ho]
    · exact nomatch h

/-! ## Normal form -/

/-- A part in normal form is no empty text. -/
theorem IsNormal.ne_empty {p : FilePath} (h : p.IsNormal) {part : String} (hpart : part ∈ p.parts) :
    part ≠ "" := by
  rintro rfl
  simpa [isIdle] using (h _ hpart).1

/-- A path in normal form goes through its parts. -/
theorem IsNormal.names_eq {p : FilePath} (h : p.IsNormal) : p.names = p.parts := by
  -- the parts are looked at one by one, since each of them is one piece
  have : ∀ ps : List String, (∀ part ∈ ps, part ≠ "" ∧ '/' ∉ part.toList) →
      ps.flatMap piecesOf = ps := by
    intro ps hps
    induction ps with
    | nil => rfl
    | cons part ps ih =>
      have hpart := hps part List.mem_cons_self
      rw [List.flatMap_cons, piecesOf_of_not_mem hpart.1 hpart.2,
        ih fun q hq => hps q (List.mem_cons_of_mem _ hq)]
      rfl
  exact this _ fun part hpart => ⟨h.ne_empty hpart, (h part hpart).2⟩

/-- The way up comes first: a `..` follows nothing but other ones. -/
def ClimbsFirst (p : FilePath) : Prop :=
  p.parts.Pairwise fun before after => after = ".." → before = ".."

instance (p : FilePath) : Decidable p.ClimbsFirst :=
  inferInstanceAs (Decidable (p.parts.Pairwise _))

/-- Where the way up comes first, it does so for the directory too. -/
theorem ClimbsFirst.parent {p : FilePath} (h : p.ClimbsFirst) : p.parent.ClimbsFirst :=
  List.Pairwise.sublist (List.dropLast_sublist _) h

end ScriptBindings.FilePath

namespace ScriptBindings.FileTree

/-! ## Faults of paths -/

/-- What is wrong with the beginning of a path is wrong with the path. -/
theorem faultOf?_append {root : PathRoot} {ps qs : List String}
    (h : faultOf? ⟨root, ps ++ qs⟩ = none) : faultOf? ⟨root, ps⟩ = none := by
  by_cases hps : ps = []
  · -- a root or a current directory alone has nothing wrong with it
    subst hps
    cases root <;> decide
  by_cases hqs : qs = []
  · simpa [hqs] using h
  -- the text of the beginning is the beginning of the text
  have htext : FilePath.toString ⟨root, ps ++ qs⟩ =
      FilePath.toString ⟨root, ps⟩ ++ ("/" ++ "/".intercalate qs) := by
    have hne : ps ++ qs ≠ [] := by simp [hps]
    simp only [FilePath.toString, hps, hne, and_false, if_false,
      String.intercalate_append_of_ne_nil hps hqs, String.append_assoc]
  simp only [faultOf?, htext] at h ⊢
  split at h
  · exact nomatch h
  · rename_i hnull
    split at h
    · exact nomatch h
    · rename_i hlong
      -- a null character in the beginning is one in the text, and a longer text has more bytes
      rw [String.toList_append, List.mem_append, not_or] at hnull
      rw [String.utf8ByteSize_append] at hlong
      rw [if_neg hnull.1, if_neg (by omega)]

end ScriptBindings.FileTree

import Mathlib.Data.List.Infix
import Mathlib.Data.Nat.Digits.Defs
import ScriptBindings.Config
import ScriptBindings.Proofs.Runs

/-!
# Depths of declared overlays

The depth of an overlay is looked for anywhere in a project file, not line by line. It is still the
one of the first declaration with that name: a declaration that is found has two bars behind its
name on one line, and so has the line of a declaration, so what is found begins where the line
begins. A path may look like a declaration, but it has only one bar behind it.

## Key results

- `Declaration`, `Line`, `render`: the text of a project file
- `depthField?_eq_some` / `declarationAt?_eq_some`: what is found looks like a declaration
- `depthField?_path` / `declarationAt?_text`: a declaration is found at its beginning
- `eq_nil_of_declarationAt?`: nothing is found anywhere else in its line
- `depthDigits?_render`: the first declaration of a file
- `declaredDepth_render`: the depth that a file declares
-/

namespace ScriptBindings.Overlay

open Text

/-! ## Project files -/

/-- A name that can be declared: it has no separator of a declaration in it and does not begin with
    a sign. -/
structure IsName (name : List Char) : Prop where
  bar_not_mem : '|' ∉ name
  equals_not_mem : '=' ∉ name
  newline_not_mem : '\n' ∉ name
  minus_ne_head : name.head? ≠ some '-'

theorem isName_iff (name : List Char) :
    IsName name ↔ '|' ∉ name ∧ '=' ∉ name ∧ '\n' ∉ name ∧ name.head? ≠ some '-' :=
  ⟨fun h => ⟨h.1, h.2, h.3, h.4⟩, fun h => ⟨h.1, h.2.1, h.2.2.1, h.2.2.2⟩⟩

instance (name : List Char) : Decidable (IsName name) :=
  decidable_of_iff _ (isName_iff name).symm

/-- A declaration of an overlay. -/
structure Declaration where
  index : List Char
  minus : Bool
  name : List Char
  path : List Char
  depth : List Char
  index_ne_nil : index ≠ [] := by decide
  isDigit_index : index.all Char.isDigit = true := by decide
  isName : IsName name := by decide
  bar_not_mem_path : '|' ∉ path := by decide
  newline_not_mem_path : '\n' ∉ path := by decide
  depth_ne_nil : depth ≠ [] := by decide
  isDigit_depth : depth.all Char.isDigit = true := by decide
  length_depth : depth.length ≤ maxDigits := by decide

namespace Declaration

def sign (d : Declaration) : List Char :=
  if d.minus then ['-'] else []

/-- The line of a declaration. -/
def text (d : Declaration) : List Char :=
  "Overlay".toList ++ d.index ++ '=' :: (d.sign ++ d.name) ++ '|' :: (d.path ++ '|' :: d.depth)

theorem sign_cases (d : Declaration) : d.sign = [] ∨ d.sign = ['-'] := by
  unfold sign
  split
  · exact .inr rfl
  · exact .inl rfl

/-- The number that the digits of the depth stand for. -/
def value (d : Declaration) : Nat :=
  Nat.ofDigits 10 (d.depth.reverse.map fun c => c.toNat - '0'.toNat)

end Declaration

/-- A line of a project file. -/
inductive Line where
  | declared (d : Declaration)
  | other (text : List Char) (newline_not_mem : '\n' ∉ text) (free : ¬ "Overlay".toList <:+: text)

namespace Line

def text : Line → List Char
  | declared d => d.text
  | other text _ _ => text

def declaration? : Line → Option Declaration
  | declared d => some d
  | other _ _ _ => none

end Line

/-- The text of a project file. -/
def render (lines : List Line) : List Char :=
  ['\n'].intercalate (lines.map Line.text)

/-! ## What is found -/

variable {name s ds : List Char}

/-- The digits of a depth stand behind a bar, on the same line. -/
theorem depthField?_eq_some (h : depthField? s = some ds) :
    ∃ x rest, s = x ++ '|' :: (ds ++ rest) ∧ '\n' ∉ x := by
  induction s with
  | nil => exact nomatch h
  -- the field is looked for at every place of the line, so the induction is along the text
  | cons c cs ih =>
    unfold depthField? at h
    split at h
    · -- it is here: a bar and a digit behind it
      rename_i hbar
      obtain rfl := Option.some.inj h
      exact ⟨[], cs.dropWhile Char.isDigit, by simp [hbar.1], by simp⟩
    · split at h
      · -- beyond a line end nothing is looked for
        exact nomatch h
      · -- it is further on, in the same line
        rename_i hnewline
        obtain ⟨x, rest, rfl, hx⟩ := ih h
        exact ⟨c :: x, rest, rfl, by simp [hx, Ne.symm hnewline]⟩

/-- A depth behind the sign stands behind the name and two bars. -/
private theorem afterSign?_eq_some (h : afterSign? name s = some ds) :
    ∃ x rest, s = name ++ '|' :: (x ++ '|' :: (ds ++ rest)) ∧ '\n' ∉ x := by
  obtain ⟨behind, hbegins, hfield⟩ := Option.bind_eq_some_iff.mp h
  obtain ⟨x, rest, rfl, hx⟩ := depthField?_eq_some hfield
  refine ⟨x, rest, ?_, hx⟩
  rw [← List.isPrefixOf?_eq_some_iff_append_eq.mp hbegins, List.append_assoc, List.singleton_append]

/-- The depth in a declaration of which the sign is still to come. -/
private def afterEquals? (name : List Char) : List Char → Option (List Char)
  | '-' :: rest => afterSign? name rest <|> afterSign? name ('-' :: rest)
  | s => afterSign? name s

private theorem declarationAt?_eq (name s : List Char) :
    declarationAt? name s = ("Overlay".toList.isPrefixOf? s).bind fun s =>
      if (s.takeWhile Char.isDigit).isEmpty then none
      else (['='].isPrefixOf? (s.dropWhile Char.isDigit)).bind (afterEquals? name) := by
  unfold declarationAt?
  refine Option.bind_congr fun s _ => ?_
  split
  · rfl
  · refine Option.bind_congr fun s _ => ?_
    split
    · rfl
    · rename_i hno
      rw [afterEquals?]
      exact hno

private theorem afterEquals?_eq_some (h : afterEquals? name s = some ds) :
    ∃ sign x rest, s = sign ++ (name ++ '|' :: (x ++ '|' :: (ds ++ rest))) ∧
      (sign = [] ∨ sign = ['-']) ∧ '\n' ∉ x := by
  have hunsigned {s : List Char} (h : afterSign? name s = some ds) :
      ∃ sign x rest, s = sign ++ (name ++ '|' :: (x ++ '|' :: (ds ++ rest))) ∧
        (sign = [] ∨ sign = ['-']) ∧ '\n' ∉ x := by
    obtain ⟨x, rest, heq, hx⟩ := afterSign?_eq_some h
    exact ⟨[], x, rest, heq, .inl rfl, hx⟩
  unfold afterEquals? at h
  split at h
  · -- the sign may be that of the declaration or the beginning of the name
    rcases (Option.orElse_eq_some _ _ _).mp h with h | ⟨-, h⟩
    · obtain ⟨x, rest, rfl, hx⟩ := afterSign?_eq_some h
      exact ⟨['-'], x, rest, rfl, .inr rfl, hx⟩
    · exact hunsigned h
  · exact hunsigned h

/-- What is found looks like a declaration of the name, up to the second bar. -/
theorem declarationAt?_eq_some (h : declarationAt? name s = some ds) :
    ∃ index sign x rest,
      s = "Overlay".toList ++ index ++ '=' :: (sign ++ name) ++ '|' :: (x ++ '|' :: (ds ++ rest)) ∧
      index.all Char.isDigit = true ∧ (sign = [] ∨ sign = ['-']) ∧ '\n' ∉ x := by
  rw [declarationAt?_eq] at h
  obtain ⟨behind, hword, h⟩ := Option.bind_eq_some_iff.mp h
  -- without digits there is no declaration
  split at h
  · exact nomatch h
  obtain ⟨signed, hequals, h⟩ := Option.bind_eq_some_iff.mp h
  obtain ⟨sign, x, rest, rfl, hsign, hx⟩ := afterEquals?_eq_some h
  refine ⟨behind.takeWhile Char.isDigit, sign, x, rest, ?_, List.all_takeWhile, hsign, hx⟩
  have hbehind : behind = behind.takeWhile Char.isDigit
      ++ '=' :: (sign ++ (name ++ '|' :: (x ++ '|' :: (ds ++ rest)))) := by
    rw [← List.singleton_append, List.isPrefixOf?_eq_some_iff_append_eq.mp hequals,
      List.takeWhile_append_dropWhile]
  rw [← List.isPrefixOf?_eq_some_iff_append_eq.mp hword]
  conv_lhs => rw [hbehind]
  simp only [List.append_assoc, List.cons_append]

/-! ## What is found in the line of a declaration -/

/-- A text that goes on with a line end, or not at all. -/
def EndsLine (s : List Char) : Prop :=
  ∀ c ∈ s.head?, c = '\n'

variable {t : List Char}

/-- The depth of a declaration, from its path on. -/
theorem depthField?_path {path depth : List Char} (hbar : '|' ∉ path) (hnewline : '\n' ∉ path)
    (hnone : depth ≠ []) (hdepth : depth.all Char.isDigit = true) (ht : EndsLine t) :
    depthField? (path ++ '|' :: (depth ++ t)) = some depth := by
  induction path with
  | nil =>
    -- the depth begins with a digit, so it is the one behind this bar
    have hhead : (depth ++ t).head?.any Char.isDigit = true := by
      obtain ⟨c, depth, rfl⟩ := List.exists_cons_of_ne_nil hnone
      simpa using List.all_eq_true.mp hdepth c (by simp)
    -- neither the end of the text nor a line end is a digit
    have hstop : ∀ c ∈ t.head?, c.isDigit = false := fun c hc => by rw [ht c hc]; rfl
    rw [List.nil_append, depthField?, if_pos ⟨rfl, hhead⟩, takeWhile_append_of_head hstop,
      List.takeWhile_eq_self_iff.mpr (List.all_eq_true.mp hdepth)]
  | cons c path ih =>
    rw [List.mem_cons, not_or] at hbar hnewline
    rw [List.cons_append, depthField?, if_neg (fun h => hbar.1 h.1.symm),
      if_neg (Ne.symm hnewline.1), ih hbar.2 hnewline.2]

/-- The depth of a declaration, from its name on. -/
private theorem afterSign?_name {path depth : List Char} (hbar : '|' ∉ path)
    (hnewline : '\n' ∉ path) (hnone : depth ≠ []) (hdepth : depth.all Char.isDigit = true)
    (ht : EndsLine t) :
    afterSign? name (name ++ '|' :: (path ++ '|' :: (depth ++ t))) = some depth := by
  have hbegins : (name ++ ['|']).isPrefixOf? (name ++ '|' :: (path ++ '|' :: (depth ++ t)))
      = some (path ++ '|' :: (depth ++ t)) := by
    rw [List.isPrefixOf?_eq_some_iff_append_eq, List.append_assoc, List.singleton_append]
  rw [afterSign?, hbegins, Option.bind_some, depthField?_path hbar hnewline hnone hdepth ht]

/-- The depth of a declaration, from its sign on. -/
private theorem afterEquals?_sign {sign : List Char} (hname : IsName name)
    (hsign : sign = [] ∨ sign = ['-']) (h : afterSign? name (name ++ '|' :: s) = some ds) :
    afterEquals? name (sign ++ (name ++ '|' :: s)) = some ds := by
  rcases hsign with rfl | rfl
  · rw [List.nil_append, afterEquals?, h]
    -- an unsigned name is not taken for a signed one, as it begins with no sign
    intro rest heq
    cases name with
    | nil => exact absurd (List.cons.inj heq).1 (by decide)
    | cons c name => exact hname.minus_ne_head (congrArg some (List.cons.inj heq).1)
  · show (afterSign? name (name ++ '|' :: s) <|> _) = some ds
    rw [h]
    rfl

/-- A declaration is found at the beginning of its line. -/
theorem declarationAt?_text (d : Declaration) (ht : EndsLine t) :
    declarationAt? d.name (d.text ++ t) = some d.depth := by
  have hafter : afterEquals? d.name
      (d.sign ++ (d.name ++ '|' :: (d.path ++ '|' :: (d.depth ++ t)))) = some d.depth :=
    afterEquals?_sign d.isName d.sign_cases
      (afterSign?_name d.bar_not_mem_path d.newline_not_mem_path d.depth_ne_nil d.isDigit_depth ht)
  have hword : "Overlay".toList.isPrefixOf? (d.text ++ t) = some (d.index ++ '='
      :: (d.sign ++ (d.name ++ '|' :: (d.path ++ '|' :: (d.depth ++ t))))) := by
    rw [List.isPrefixOf?_eq_some_iff_append_eq]
    unfold Declaration.text
    simp only [List.append_assoc, List.cons_append]
  have hstop (s : List Char) : ∀ c ∈ ('=' :: s).head?, c.isDigit = false := by
    rintro c ⟨⟩
    rfl
  have hequals (s : List Char) : ['='].isPrefixOf? ('=' :: s) = some s := rfl
  -- the digits of the index end at the equals sign
  have hindex := List.all_eq_true.mp d.isDigit_index
  rw [declarationAt?_eq, hword, Option.bind_some, takeWhile_append_of_head (hstop _),
    dropWhile_append_of_head (hstop _), List.takeWhile_eq_self_iff.mpr hindex,
    List.dropWhile_eq_nil_iff.mpr hindex, if_neg (by simpa using d.index_ne_nil),
    List.nil_append, hequals, Option.bind_some, hafter]

/-- A text with two separators in all has the first one in one place only, however it is split at
    two of them. -/
private theorem eq_of_two_separators {c : Char} {p q r p' q' r' : List Char} (hp : c ∉ p)
    (hq : c ∉ q) (hr : c ∉ r) (h : p ++ c :: (q ++ c :: r) = p' ++ c :: (q' ++ c :: r')) :
    p = p' := by
  -- all separators are counted, and none are left for the first part
  have hp' : c ∉ p' := by
    have hcount := congrArg (List.count c) h
    simp only [List.count_append, List.count_cons_self, List.count_eq_zero.mpr hp,
      List.count_eq_zero.mpr hq, List.count_eq_zero.mpr hr] at hcount
    rw [← List.count_eq_zero]
    omega
  have hsplit := congrArg (List.splitOn c) h
  rw [List.splitOn_append_cons_self_of_not_mem hp,
    List.splitOn_append_cons_self_of_not_mem hp'] at hsplit
  exact (List.cons.inj hsplit).1

section Parts

variable {c : Char} {index sign sign' name' : List Char}

private theorem not_mem_of_digits (hc : c.isDigit = false)
    (hindex : index.all Char.isDigit = true) : c ∉ index :=
  fun hmem => Bool.false_ne_true (hc.symm.trans (List.all_eq_true.mp hindex c hmem))

private theorem not_mem_signed (hsign : sign = [] ∨ sign = ['-']) (hc : c ≠ '-')
    (hname : c ∉ name) : c ∉ sign ++ name := by
  rcases hsign with rfl | rfl
  · simpa using hname
  · simp [hc, hname]

private theorem not_mem_key {word : List Char} (hword : c ∉ word) (hc : c.isDigit = false)
    (hindex : index.all Char.isDigit = true) : c ∉ word ++ index := by
  rw [List.mem_append, not_or]
  exact ⟨hword, not_mem_of_digits hc hindex⟩

/-- The characters before the first bar of a declaration. -/
private theorem not_mem_front (hindex : index.all Char.isDigit = true)
    (hsign : sign = [] ∨ sign = ['-']) (hc : c.isDigit = false) (hword : c ∉ "Overlay".toList)
    (hmarks : c ∉ ['=', '-']) (hname : c ∉ name) :
    c ∉ "Overlay".toList ++ index ++ '=' :: (sign ++ name) := by
  rw [List.mem_cons, List.mem_singleton, not_or] at hmarks
  rw [List.mem_append, List.mem_cons, not_or, not_or]
  exact ⟨not_mem_key hword hc hindex, hmarks.1, not_mem_signed hsign hmarks.2 hname⟩

/-- A name does not begin with a sign, so the sign before it is told apart from it. -/
private theorem name_eq_of_signed (hsign : sign = [] ∨ sign = ['-'])
    (hsign' : sign' = [] ∨ sign' = ['-']) (hname : IsName name) (hname' : IsName name')
    (h : sign ++ name = sign' ++ name') : name = name' := by
  rcases hsign with rfl | rfl <;> rcases hsign' with rfl | rfl
  · exact h
  · -- a name would begin with the sign of the other one
    exact absurd (by rw [← List.nil_append name, h]; rfl) hname.minus_ne_head
  · exact absurd (by rw [← List.nil_append name', ← h]; rfl) hname'.minus_ne_head
  · exact (List.cons.inj h).2

end Parts

variable {u v : List Char}

/-- A declaration that is found anywhere in the line of a declaration is that declaration. -/
theorem eq_nil_of_declarationAt? (d : Declaration) (hname : IsName name) (ht : EndsLine t)
    (huv : u ++ v = d.text) (h : declarationAt? name (v ++ t) = some ds) :
    u = [] ∧ name = d.name := by
  obtain ⟨index, sign, x, rest, heq, hindex, hsign, hx⟩ := declarationAt?_eq_some h
  -- no line end stands before the second bar, so it is a bar of this line
  obtain ⟨behind, rfl⟩ : "Overlay".toList ++ index ++ '=' :: (sign ++ name) ++ '|' :: (x ++ ['|'])
      <+: v := by
    refine isPrefix_of_head (r := t) (fun c hc => ?_) ⟨ds ++ rest, by simp [heq]⟩
    rw [ht c hc, List.mem_append, not_or]
    exact ⟨not_mem_front hindex hsign rfl (by decide) (by decide) hname.newline_not_mem,
      by simp [hx]⟩
  have hbars : "Overlay".toList ++ d.index ++ '=' :: (d.sign ++ d.name)
      = u ++ ("Overlay".toList ++ index ++ '=' :: (sign ++ name)) := by
    have htext : d.text = u ++ ("Overlay".toList ++ index ++ '=' :: (sign ++ name))
        ++ '|' :: (x ++ '|' :: behind) := by
      rw [← huv]
      simp only [List.append_assoc, List.cons_append, List.nil_append]
    exact eq_of_two_separators
      (not_mem_front d.isDigit_index d.sign_cases rfl (by decide) (by decide) d.isName.bar_not_mem)
      d.bar_not_mem_path (not_mem_of_digits rfl d.isDigit_depth) htext
  -- there is only one equals sign before the first bar, and only one capital letter
  obtain ⟨hkey, -, hsigned⟩ := (List.append_cons_inj_of_notMem
    (not_mem_key (by decide) rfl d.isDigit_index)
    (not_mem_signed d.sign_cases (by decide) d.isName.equals_not_mem)).mp
    (hbars.trans (List.append_assoc u _ _).symm)
  refine ⟨?_, name_eq_of_signed hsign d.sign_cases hname d.isName hsigned.symm⟩
  have hfirst : [] ++ 'O' :: ("verlay".toList ++ d.index)
      = u ++ 'O' :: ("verlay".toList ++ index) := hkey
  exact ((List.append_cons_inj_of_notMem List.not_mem_nil
    (not_mem_key (by decide) rfl d.isDigit_index)).mp hfirst).1.symm

/-! ## The first declaration -/

/-- The search goes over a text in which no declaration begins. -/
private theorem depthDigits?_skip
    (h : ∀ u v, u ++ v = s → v ≠ [] → declarationAt? name (v ++ t) = none) :
    depthDigits? name (s ++ t) = depthDigits? name t := by
  induction s with
  | nil => rfl
  | cons c s ih =>
    -- no declaration begins at this place, or at any later one
    have hhere : declarationAt? name (c :: (s ++ t)) = none :=
      h [] (c :: s) rfl (List.cons_ne_nil c s)
    rw [List.cons_append, depthDigits?, hhere]
    exact ih fun u v huv => h (c :: u) v (by rw [List.cons_append, huv])

/-- The search ends where a declaration begins. -/
private theorem depthDigits?_of_declarationAt? (h : declarationAt? name s = some ds) :
    depthDigits? name s = some ds := by
  cases s with
  | nil => exact nomatch h
  | cons c s =>
    rw [depthDigits?, h]
    rfl

/-- The search at the line of a declaration. -/
private theorem depthDigits?_declared (d : Declaration) (hname : IsName name) (ht : EndsLine t) :
    depthDigits? name (d.text ++ t) =
      if d.name = name then some d.depth else depthDigits? name t := by
  split
  · rename_i hsame
    subst hsame
    exact depthDigits?_of_declarationAt? (declarationAt?_text d ht)
  · rename_i hother
    -- one that is found in this line has the name of the line
    refine depthDigits?_skip fun u v huv _ => ?_
    cases hv : declarationAt? name (v ++ t) with
    | none => rfl
    | some ds => exact absurd (eq_nil_of_declarationAt? d hname ht huv hv).2.symm hother

/-- The search at any other line. -/
private theorem depthDigits?_other {text : List Char} (hfree : ¬ "Overlay".toList <:+: text)
    (ht : EndsLine t) : depthDigits? name (text ++ t) = depthDigits? name t := by
  refine depthDigits?_skip fun u v huv _ => ?_
  cases hv : declarationAt? name (v ++ t) with
  | none => rfl
  | some ds =>
    obtain ⟨index, sign, x, rest, heq, -⟩ := declarationAt?_eq_some hv
    -- the word begins and ends in the line, as no line end is a letter of it
    have hword : "Overlay".toList <+: v := by
      refine isPrefix_of_head (r := t) (fun c hc => ?_) ?_
      · rw [ht c hc]
        decide
      · rw [heq]
        simp only [List.append_assoc, List.prefix_append]
    exact absurd (hword.isInfix.trans ⟨u, [], by rw [List.append_nil, huv]⟩) hfree

/-- The search goes over a line end. -/
private theorem depthDigits?_newline : depthDigits? name ('\n' :: t) = depthDigits? name t := by
  have hhere : declarationAt? name ('\n' :: t) = none := rfl
  rw [depthDigits?, hhere]
  rfl

/-- Behind the first line of a project file, the search goes on with the others. -/
private theorem exists_behind_line (name : List Char) (line : Line) (lines : List Line) :
    ∃ t, render (line :: lines) = line.text ++ t ∧ EndsLine t ∧
      depthDigits? name t = depthDigits? name (render lines) := by
  cases lines with
  | nil =>
    -- behind the last line there is nothing
    have hends : EndsLine [] := by simp [EndsLine]
    exact ⟨[], by simp [render], hends, rfl⟩
  | cons next lines =>
    refine ⟨'\n' :: render (next :: lines), ?_, ?_, depthDigits?_newline⟩
    · simp [render]
    · rintro c ⟨⟩
      rfl

/-- The depth of an overlay in a project file is that of its first declaration. -/
theorem depthDigits?_render (hname : IsName name) (lines : List Line) :
    depthDigits? name (render lines) =
      ((lines.filterMap Line.declaration?).find? (·.name = name)).map Declaration.depth := by
  induction lines with
  | nil => rfl
  | cons line lines ih =>
    obtain ⟨t, hrender, ht, hbehind⟩ := exists_behind_line name line lines
    rw [hrender]
    cases line with
    | declared d =>
      have hdeclared : (Line.declared d).declaration? = some d := rfl
      rw [List.filterMap_cons_some hdeclared, List.find?_cons]
      show depthDigits? name (d.text ++ t) = _
      -- the first line decides if it has the name, and else the others do
      rw [depthDigits?_declared d hname ht, hbehind, ih]
      by_cases hsame : d.name = name
      · simp only [hsame, if_true, decide_true, Option.map_some]
      · simp only [hsame, if_false, decide_false]
    -- a line that is no declaration has nothing in it that is found
    | other text _ hfree =>
      show depthDigits? name (text ++ t) = _
      rw [depthDigits?_other hfree ht, hbehind, ih]
      rfl

/-! ## The depth that is declared -/

theorem natOfDigits_eq (digits : List Char) :
    natOfDigits digits = Nat.ofDigits 10 (digits.reverse.map fun c => c.toNat - '0'.toNat) := by
  induction digits using List.reverseRecOn with
  | nil => rfl
  | append_singleton digits c ih =>
    -- the last digit is the first one of the reversed number
    rw [natOfDigits_concat, ih, List.reverse_concat, List.map_cons, Nat.ofDigits_cons]
    omega

/-- Reading a depth undoes writing a project file. In a file with any declarations and other lines,
    the depth of an overlay is the one of the first declaration with its name, if that is
    positive. -/
theorem declaredDepth_render {name : String} (hname : IsName name.toList) (lines : List Line)
    (bytes : Bytes) (hbytes : plainLineEnds (Utf8.decodeReplacing bytes) = render lines) :
    Config.declaredDepth (.text name) (some bytes) =
      .ok ((((lines.filterMap Line.declaration?).find? (·.name = name.toList)).map
        Declaration.value).filter (0 < ·)) := by
  have hread : Config.declaredDepth (.text name) (some bytes)
      = (readDepth name bytes).mapError .depth := rfl
  rw [hread, readDepth, hbytes, declaredDepth?, depthDigits?_render hname]
  cases (lines.filterMap Line.declaration?).find? (·.name = name.toList) with
  | none => rfl
  | some d =>
    -- a depth that can be declared is short enough to be read
    have hdigits : readDigits? d.depth = some d.value := by
      rw [readDigits?, if_neg (Nat.not_lt.mpr d.length_depth), natOfDigits_eq, Declaration.value]
    simp only [Option.map_some, hdigits, Option.filter_some]
    by_cases hzero : d.value = 0
    · simp [hzero, Except.mapError]
    · simp [hzero, Nat.pos_of_ne_zero hzero, Except.mapError]

/-- A path that looks like a declaration, a name that is the beginning of another one, a sign, and a
    depth with a leading zero. -/
theorem declaredDepth_render_pathLikeDeclaration :
    IsName "Core".toList ∧
    Config.declaredDepth (.text "Core")
        (some ("[Scripts]\r\n" ++ "Overlay1=CoreX|Overlay2=Core|3\n" ++ "Overlay2=-Core|C:/a=b|07\n"
          ++ "Overlay3=Core||9").toUTF8.toList)
      = .ok (some 7) := by
  have hname : IsName "Core".toList := by decide
  refine ⟨hname, ?_⟩
  let longer : Declaration :=
    { index := "1".toList, minus := false, name := "CoreX".toList, path := "Overlay2=Core".toList
      depth := "3".toList }
  let signed : Declaration :=
    { index := "2".toList, minus := true, name := "Core".toList, path := "C:/a=b".toList
      depth := "07".toList }
  let later : Declaration :=
    { index := "3".toList, minus := false, name := "Core".toList, path := [], depth := "9".toList }
  rw [declaredDepth_render hname
    [.other "[Scripts]".toList (by decide) (by decide), .declared longer, .declared signed,
      .declared later] _ (by decide +kernel)]
  decide +kernel

end ScriptBindings.Overlay

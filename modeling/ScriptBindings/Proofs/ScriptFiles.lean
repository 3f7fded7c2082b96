import ScriptBindings.Proofs.ClassPaths
import ScriptBindings.Proofs.MethodNames
import ScriptBindings.Proofs.StagingSteps

/-!
# Files of functions

Where classes are called by words and have script names of their own, a script file belongs to one
method of one class. It is neither a staged file nor a directory of scripts.

## Key results

- `last_of_join`: a file name is the end of the path, whatever stands before it
- `methodFileName_inj`: different methods of a class have different files
- `className_of_parts`: the directory of a class tells its script name
- `functionPath_collision_free`: no two files of the layout are the same
-/

namespace ScriptBindings

namespace FilePath

/-- What stands behind a text without a slash stands behind its last piece. -/
private theorem splitSlashes_append_of_not_mem (xs : List Char) {ys : List Char} (h : '/' ∉ ys) :
    ∃ pieces piece, splitSlashes xs = pieces ++ [piece] ∧
      splitSlashes (xs ++ ys) = pieces ++ [piece ++ ys] := by
  induction xs with
  | nil => exact ⟨[], [], rfl, splitSlashes_of_not_mem ys h⟩
  | cons c cs ih =>
    obtain ⟨pieces, piece, hcs, hall⟩ := ih
    -- a slash begins another piece, and the last one stays what it is
    by_cases hc : c = '/'
    · exact ⟨[] :: pieces, piece, by simp [splitSlashes, hc, hcs], by simp [splitSlashes, hc, hall]⟩
    · -- the character goes to the first piece, which may be the last one too
      cases pieces with
      | nil =>
        exact ⟨[], c :: piece, by simp [splitSlashes, hc, hcs], by simp [splitSlashes, hc, hall]⟩
      | cons first rest =>
        exact ⟨(c :: first) :: rest, piece, by simp [splitSlashes, hc, hcs],
          by simp [splitSlashes, hc, hall]⟩

/-- A piece of more than one character leads somewhere. -/
theorem isIdle_append (piece : List Char) {ending : List Char} (h : 2 ≤ ending.length) :
    isIdle (piece ++ ending) = false := by
  have hlong : 2 ≤ (piece ++ ending).length := by
    rw [List.length_append]
    omega
  -- neither an empty piece nor a dot is as long as that
  have hempty : piece ++ ending ≠ [] := fun hnil => by simp [hnil] at hlong
  have hdot : piece ++ ending ≠ ['.'] := fun hdot => by simp [hdot] at hlong
  simp only [isIdle, hempty, hdot, or_self, decide_false]

/-- A text with an ending that has no slash is appended so that the ending stands behind the last
    part. -/
theorem last_of_join (p : NormalPath) (s : String) {ending : List Char} (h : '/' ∉ ending)
    (hlength : 2 ≤ ending.length) :
    ∃ outer last, (p.join (s ++ String.ofList ending)).parts =
      outer ++ [String.ofList (last ++ ending)] := by
  obtain ⟨pieces, piece, -, hsplit⟩ := splitSlashes_append_of_not_mem s.toList h
  have hidle : isIdle (piece ++ ending) = false := isIdle_append piece hlength
  -- the last piece has the ending, so it is a part and is not left out
  have hparts : partsOf (s ++ String.ofList ending) =
      (pieces.filter (!isIdle ·)).map String.ofList ++ [String.ofList (piece ++ ending)] := by
    simp [partsOf, hsplit, hidle]
  rw [NormalPath.join, NormalPath.toFilePath_append, NormalPath.toFilePath_ofString, append]
  -- the text is relative or absolute, and its last part is the end of the path in both cases
  split
  · exact ⟨p.parts ++ (pieces.filter (!isIdle ·)).map String.ofList, piece, by simp [hparts]⟩
  · exact ⟨_, piece, hparts⟩

end FilePath

/-! ## File names -/

/-- What stands behind the name of a method in the name of its file. -/
def methodFileEnding (isStatic : Bool) : List Char :=
  (if isStatic then "()C.sk" else "().sk").toList

/-- The file name of a method is its name, with question marks written out, and the ending. -/
theorem methodFileName_eq (method : String) (isStatic : Bool) :
    methodFileName method isStatic =
      String.ofList (method.toList.flatMap fun c => if c = '?' then ['-', 'Q'] else [c]) ++
        String.ofList (methodFileEnding isStatic) := by
  simp [methodFileName, methodFileEnding]

/-- The text has no question mark but one at its end, and no `Q`. -/
def IsMethodText (method : List Char) : Prop :=
  ∃ plain : List Char, ('?' ∉ plain ∧ 'Q' ∉ plain) ∧ (method = plain ∨ method = plain ++ ['?'])

/-- A text without question marks is written as it is. -/
private theorem flatMap_of_not_mem {plain : List Char} (h : '?' ∉ plain) :
    plain.flatMap (fun c => if c = '?' then ['-', 'Q'] else [c]) = plain := by
  induction plain with
  | nil => rfl
  | cons c cs ih =>
    simp only [List.mem_cons, not_or] at h
    rw [List.flatMap_cons, ih h.2, if_neg (Ne.symm h.1), List.singleton_append]

/-- Different methods have different file names, and so have static ones and others. -/
theorem methodFileName_inj {method method' : String} {isStatic isStatic' : Bool}
    (hm : IsMethodText method.toList) (hm' : IsMethodText method'.toList)
    (h : methodFileName method isStatic = methodFileName method' isStatic') :
    method = method' ∧ isStatic = isStatic' := by
  rw [methodFileName_eq, methodFileName_eq] at h
  have hlist := congrArg String.toList h
  simp only [String.toList_append, String.toList_ofList] at hlist
  -- the endings differ in the fourth character from the end
  obtain rfl : isStatic = isStatic' := by
    have hend := congrArg (fun s => s.reverse.take 4) hlist
    cases isStatic <;> cases isStatic' <;> simp [methodFileEnding] at hend ⊢
  refine ⟨String.toList_inj.mp ?_, rfl⟩
  have hsame := List.append_cancel_right hlist
  obtain ⟨plain, ⟨hplain, hq⟩, heq⟩ := hm
  obtain ⟨plain', ⟨hplain', hq'⟩, heq'⟩ := hm'
  -- with a question mark at the end or without, in both names
  rcases heq with heq | heq <;> rcases heq' with heq' | heq' <;> rw [heq, heq'] at hsame ⊢ <;>
    simp only [List.flatMap_append, flatMap_of_not_mem hplain, flatMap_of_not_mem hplain'] at hsame
  · exact hsame
  · -- a `Q` stands for a question mark only
    rw [hsame] at hq
    simp at hq
  · rw [← hsame] at hq'
    simp at hq'
  · rw [List.append_cancel_right hsame]

/-- The method name of a host function has no question mark but one at its end. If the host name has
    no slash, it has none either. -/
theorem HostFunction.isMethodText {f : HostFunction} {name : String} (h : f.name = .text name) :
    ∃ method, f.methodName = .ok method ∧ IsMethodText method.toList ∧
      ('/' ∉ name.toList → '/' ∉ method.toList) := by
  have hspelled := Name.ofMethod_eq
    (P := fun d => d ≠ '?' ∧ d ≠ 'Q' ∧ ('/' ∉ name.toList → d ≠ '/')) name.toList f.returnsBoolean
    (by simp) fun c hc hquestion _ d hd => ?_
  · -- no character of the spelling is a question mark or a `Q`, and a slash comes from the name
    obtain ⟨plain, hplain, heq⟩ := hspelled
    refine ⟨_, HostFunction.methodName_text h, ⟨plain, ⟨fun hmem => (hplain _ hmem).1 rfl,
      fun hmem => (hplain _ hmem).2.1 rfl⟩, by simpa using heq⟩, fun hname hslash => ?_⟩
    have hno : '/' ∉ plain := fun hmem => (hplain _ hmem).2.2 hname rfl
    rcases heq with heq | heq <;> rw [String.toList_ofList, heq] at hslash
    · exact hno hslash
    · simp [hno] at hslash
  · -- what is no capital letter comes from the host name
    refine ⟨?_, ?_, ?_⟩
    · rintro rfl
      exact hquestion (Text.eq_of_mem_lowercase hd (by decide) (by decide)).symm
    · rintro rfl
      exact absurd (Text.isUpper_of_mem_lowercase hd) (by decide)
    · rintro hname rfl
      exact hname (Text.eq_of_mem_lowercase hd (by decide) (by decide) ▸ hc)

/-- The file name of a method whose name has no slash is one part of a path. -/
theorem isPart_methodFileName {method : String} (isStatic : Bool) (h : '/' ∉ method.toList) :
    FilePath.IsPart (methodFileName method isStatic) := by
  rw [methodFileName_eq, FilePath.IsPart]
  simp only [String.toList_append, String.toList_ofList]
  have hlength : 2 ≤ (methodFileEnding isStatic).length := by cases isStatic <;> decide
  constructor
  · exact FilePath.isIdle_append _ hlength
  · have hending : '/' ∉ methodFileEnding isStatic := by cases isStatic <;> decide
    -- the ending has no slash, and a question mark is written without one
    rw [List.mem_append, List.mem_flatMap, not_or]
    refine ⟨?_, hending⟩
    rintro ⟨c, hc, hslash⟩
    split at hslash
    · exact absurd hslash (by decide)
    · exact h (List.mem_singleton.mp hslash ▸ hc)

/-- Behind the ending of a file name, a text does not make such an ending again, unless it is empty
    or ends in `.sk` itself. -/
theorem ne_append_suffix {isStatic isStatic' : Bool} {suffix : List Char} (hne : suffix ≠ [])
    (hsk : ¬ ".sk".toList <:+ suffix) (xs ys : List Char) :
    xs ++ methodFileEnding isStatic ≠ ys ++ methodFileEnding isStatic' ++ suffix := by
  -- both endings are `.sk` behind something, which settles a suffix of three characters or more
  intro heq
  have hending : ∀ b, ∃ before, methodFileEnding b = before ++ ".sk".toList := by
    intro b
    cases b with
    | false => exact ⟨['(', ')'], rfl⟩
    | true => exact ⟨['(', ')', 'C'], rfl⟩
  obtain ⟨before, hbefore⟩ := hending isStatic
  obtain ⟨before', hbefore'⟩ := hending isStatic'
  rw [hbefore, hbefore', ← List.append_assoc, ← List.append_assoc] at heq
  have hleft : ".sk".toList <:+ xs ++ before ++ ".sk".toList := List.suffix_append _ _
  have hright : suffix <:+ xs ++ before ++ ".sk".toList := heq ▸ List.suffix_append _ _
  by_cases hlength : 3 ≤ suffix.length
  · exact hsk (List.suffix_of_suffix_length_le hleft hright hlength)
  -- the suffix is a part of `.sk`, and `.sk` does not overlap itself
  have hshort : suffix <:+ ".sk".toList :=
    List.suffix_of_suffix_length_le hright hleft (by simp at hlength ⊢; omega)
  have hcases : suffix = ['k'] ∨ suffix = ['s', 'k'] := by
    match suffix, hne, hlength with
    | [a], _, _ => exact .inl (by simpa [List.suffix_cons_iff] using hshort)
    | [a, b], _, _ => exact .inr (by simpa [List.suffix_cons_iff] using hshort)
    | a :: b :: c :: rest, _, hlength => exact absurd (by simp) hlength
  have hreverse := congrArg List.reverse heq
  -- the last characters of the two texts are different ones
  rcases hcases with rfl | rfl
  · simp at hreverse
  · simp at hreverse

/-! ## Directories of classes -/

namespace Layout

variable {m : Model} {ss : Set Struct} {s t : Struct} {c c' p : NormalPath} {levels : Int}

/-- Structs and classes that are called by words, as are their ancestors, and that have script names
    of their own. -/
structure Distinct (m : Model) (ss : Set Struct) : Prop where
  isWord : ∀ s ∈ ss, s.name.IsWord
  ancestors : ∀ s ∈ ss, ∃ as, m.ancestors? s.name = .ok as ∧ ∀ a ∈ as, a.IsWord
  apart : ∀ s ∈ ss, ∀ t ∈ ss, s.name.className = t.name.className → s = t

/-- The directory of a class below the scripts path: some outer ones and its own, which ends in its
    script name. -/
structure LiesAt (scripts : FilePath) (s : Struct) (c : NormalPath) (outer : List String)
    (own word : String) : Prop where
  path : c.toFilePath = ⟨scripts.root,
    scripts.parts ++ (FilePath.partsOf (base s.isClass) ++ (outer ++ [own]))⟩
  segments : ∀ x ∈ outer ++ [own], IsSegment x
  className : s.name.className = .text word
  isWord : Name.IsWord word
  ends : own = word ∨ ∃ before, Name.IsWord before ∧ own = before ++ "." ++ word

/-- Classes that are called by words have a directory. -/
theorem Distinct.classPath (h : Distinct m ss) (hs : s ∈ ss) {l : TrackedLayout}
    (hd : l.depth = .levels levels) :
    ∃ c outer own word, (l.classPath m s).1 = .ok c ∧ LiesAt l.scriptsPath s c outer own word := by
  -- the ancestors are words, so all directories are parts of a path
  obtain ⟨as, has, hwords⟩ := h.ancestors s hs
  obtain ⟨outer, own, word, hsegments, hall, hname, hword, hends⟩ :=
    segments_of_words (min (levels - reserved s.isClass).toNat as.length) (h.isWord s hs) hwords
  obtain ⟨c, hpath, hc⟩ := classPath_of_segments hd hsegments fun x hx => (hall x hx).isPart
  refine ⟨c, outer, own, word, ?_, hc, hall, hname, hword, hends⟩
  rw [TrackedLayout.classPath_of_ancestors has]
  exact hpath

/-- The directory of a class tells its script name. -/
theorem LiesAt.className_eq {scripts scripts' : FilePath} {outer outer' : List String}
    {own own' word word' : String} (h : LiesAt scripts s c outer own word)
    (h' : LiesAt scripts' t c' outer' own' word') (heq : c.parts = c'.parts) :
    s.name.className = t.name.className := by
  have hown : own = own' := by
    -- the last parts are the directories of the classes themselves
    have hlast := congrArg List.getLast? heq
    rw [h.path, h'.path] at hlast
    simpa [List.getLast?_append] using hlast
  have hdot : ∀ {x : String}, Name.IsWord x → '.' ∉ x.toList := fun hx hmem =>
    absurd (hx.2 '.' hmem) (by decide)
  have hlist := congrArg String.toList hown
  rw [h.className, h'.className]
  -- a dot stands before the script name or nowhere
  rcases h.ends with rfl | ⟨before, hbefore, rfl⟩ <;>
    rcases h'.ends with rfl | ⟨before', hbefore', rfl⟩
  · rw [hown]
  · exact absurd (by rw [hlist]; simp) (hdot h.isWord)
  · exact absurd (by rw [← hlist]; simp) (hdot h'.isWord)
  · simp only [String.toList_append, List.append_assoc] at hlist
    have hsame := (List.append_cons_inj_of_notMem (hdot hbefore) (hdot h.isWord)).mp hlist
    rw [String.toList_inj.mp hsame.2.2]

/-- The directories of classes have no parentheses. -/
theorem LiesAt.paren_not_mem {scripts : FilePath} {outer : List String} {own word : String}
    (h : LiesAt scripts s c outer own word) :
    ∀ x ∈ FilePath.partsOf (base s.isClass) ++ (outer ++ [own]), '(' ∉ x.toList := by
  intro x hx hparen
  rcases List.mem_append.mp hx with hbase | hsegment
  · have hnone : ∀ b, ∀ y ∈ FilePath.partsOf (base b), '(' ∉ y.toList := by decide
    -- the directory of all classes has no parentheses
    exact hnone _ x hbase hparen
  · -- the others are made of words and dots
    rcases (h.segments x hsegment).characters '(' hparen with hchar | hdot
    · exact absurd hchar (by decide)
    · exact absurd hdot (by decide)

end Layout

namespace TrackedLayout

variable {m : Model} {l : TrackedLayout} {s : Struct} {f : HostFunction} {p : NormalPath}

/-- The file of a function lies in the directory of its class, unless the name leads elsewhere. -/
theorem functionPath_eq_ok (h : (l.functionPath m s f).1 = .ok p) :
    ∃ method c, f.methodName = .ok method ∧ (l.classPath m s).1 = .ok c ∧
      p = c.join (methodFileName method f.isStatic) := by
  unfold functionPath at h
  -- both the method name and the directory are needed
  cases hmethod : f.methodName with
  | error e => rw [hmethod] at h; exact nomatch h
  | ok method =>
    rw [hmethod] at h
    simp only [methodPath] at h
    cases hc : (l.classPath m s).1 with
    | error e => rw [hc] at h; exact nomatch h
    | ok c =>
      rw [hc] at h
      exact ⟨method, c, rfl, rfl, (Except.ok.inj h).symm⟩

/-- The path of a file ends in the ending of method files. -/
theorem last_of_functionPath (h : (l.functionPath m s f).1 = .ok p) :
    ∃ outer last, p.parts = outer ++ [String.ofList (last ++ methodFileEnding f.isStatic)] := by
  obtain ⟨method, c, -, -, hjoin⟩ := functionPath_eq_ok h
  rw [hjoin, methodFileName_eq]
  refine FilePath.last_of_join c _ ?_ ?_
  · cases f.isStatic <;> decide
  · cases f.isStatic <;> decide

/-- A function whose class has a directory has a file. -/
theorem functionPath_of_classPath {c : NormalPath} {method : String}
    (hm : f.methodName = .ok method) (hc : (l.classPath m s).1 = .ok c) :
    (l.functionPath m s f).1 = .ok (c.join (methodFileName method f.isStatic)) := by
  unfold functionPath
  simp only [hm, methodPath, hc]
  rfl

variable {ss : Set Struct} {levels : Int} {l' : TrackedLayout} {t : Struct} {g : HostFunction}
  {c q : NormalPath} {d temp : FilePath}

/-- Functions with the same file belong to the same class and are called the same. -/
theorem functionPath_inj (h : Layout.Distinct m ss) (hd : l.depth = .levels levels)
    (hl : l'.toLayout = l.toLayout) (hs : s ∈ ss) (ht : t ∈ ss) {name name' : String}
    (hf : f.name = .text name) (hslash : '/' ∉ name.toList) (hg : g.name = .text name')
    (hslash' : '/' ∉ name'.toList) (hp : (l.functionPath m s f).1 = .ok p)
    (hp' : (l'.functionPath m t g).1 = .ok p) :
    s = t ∧ f.methodName = g.methodName ∧ f.isStatic = g.isStatic := by
  obtain ⟨method, c, hmethod, hc, hpath⟩ := functionPath_eq_ok hp
  obtain ⟨method', c', hmethod', hc', hjoin⟩ := functionPath_eq_ok hp'
  have hsame : (c.join (methodFileName method f.isStatic)).toFilePath =
      (c'.join (methodFileName method' g.isStatic)).toFilePath := by rw [← hpath, hjoin]
  obtain ⟨_, heq, htext, hno⟩ := HostFunction.isMethodText hf
  obtain rfl := Except.ok.inj (hmethod.symm.trans heq)
  obtain ⟨_, heq, htext', hno'⟩ := HostFunction.isMethodText hg
  obtain rfl := Except.ok.inj (hmethod'.symm.trans heq)
  -- the last part is the file name, and the others are the directory
  rw [NormalPath.join_of_part (isPart_methodFileName _ (hno hslash)),
    NormalPath.join_of_part (isPart_methodFileName _ (hno' hslash'))] at hsame
  obtain ⟨hparts, hfile⟩ := List.append_inj' (FilePath.mk.inj hsame).2 rfl
  obtain ⟨rfl, hstatic⟩ := methodFileName_inj htext htext' (List.cons.inj hfile).1
  -- a directory belongs to one of the classes, and tells its script name
  obtain ⟨_, _, _, _, hck, hat⟩ := h.classPath hs hd
  obtain rfl := Except.ok.inj (hc.symm.trans hck)
  obtain ⟨_, _, _, _, hck', hat'⟩ := h.classPath ht (l := l') (by rw [hl, hd])
  obtain rfl := Except.ok.inj (hc'.symm.trans hck')
  exact ⟨h.apart s hs t ht (hat.className_eq hat' hparts), hmethod.trans hmethod'.symm, hstatic⟩

/-- No file is a temporary one, if the suffix is neither empty nor ends in `.sk`. -/
theorem functionPath_ne_tempPath {writer : Staging} {suffix : String}
    (hw : writer.suffix = .text suffix) (hne : suffix ≠ "") (hsk : ¬ ".sk".toList <:+ suffix.toList)
    (hp : (l.functionPath m s f).1 = .ok p) (hq : (l'.functionPath m t g).1 = .ok q)
    (htemp : writer.tempPath q = .ok temp) : p ≠ temp := by
  -- both last parts end in the ending of a method file, one of them with the suffix behind
  rintro rfl
  obtain ⟨outer, last, hlast⟩ := last_of_functionPath hp
  obtain ⟨outer', last', hlast'⟩ := last_of_functionPath hq
  obtain ⟨_, name, hsuffix, hparts, hpath, -⟩ := Staging.tempPath_eq_ok htemp
  obtain rfl : suffix = _ := by simpa [hw] using hsuffix
  have hname := (List.append_inj' (hparts.symm.trans hlast') rfl).2
  have htext := (List.append_inj' ((congrArg FilePath.parts hpath).symm.trans hlast) rfl).2
  obtain rfl := (List.cons.inj hname).1
  have hlist := congrArg String.toList (List.cons.inj htext).1
  simp only [String.toList_append, String.toList_ofList] at hlist
  exact ne_append_suffix (by simpa using hne) hsk last last' hlist.symm

/-- No file is the directory of a class, nor one on the way to it from the scripts path. -/
theorem functionPath_ne_directory (h : Layout.Distinct m ss) (hd : l.depth = .levels levels)
    (ht : t ∈ ss) (hp : (l'.functionPath m s f).1 = .ok p) (hc : (l.classPath m t).1 = .ok c)
    (hbelow : l.scriptsPath.parts <+: d.parts) (hne : d.parts ≠ l.scriptsPath.parts)
    (habove : d.parts <+: c.parts) : p ≠ d := by
  rintro rfl
  obtain ⟨outer, last, hlast⟩ := last_of_functionPath hp
  obtain ⟨_, _, _, _, hck, hat⟩ := h.classPath ht hd
  obtain rfl := Except.ok.inj (hc.symm.trans hck)
  -- what comes after the scripts path are directories of the class
  -- so the file would be one of them, but a file has parentheses in its name
  obtain ⟨below, hparts⟩ := hbelow
  rw [hat.path, ← hparts, List.prefix_append_right_inj] at habove
  have hnil : below ≠ [] := by
    rintro rfl
    exact hne (by rw [← hparts, List.append_nil])
  have hmem : String.ofList (last ++ methodFileEnding f.isStatic) ∈ below := by
    rw [hlast] at hparts
    have hend := congrArg List.getLast? hparts
    rw [List.getLast?_append_of_ne_nil _ hnil, List.getLast?_concat] at hend
    exact List.mem_of_getLast? hend
  have hparen : '(' ∈ methodFileEnding f.isStatic := by cases f.isStatic <;> decide
  exact hat.paren_not_mem _ (habove.subset hmem) (by simp [hparen])

/-- **No two files of the layout are the same.** Take structs and classes that are called by words,
    as are their ancestors, and that have script names of their own.

    * Every function that is called by a text has a file.
    * If the host names have no slash, functions with the same file belong to the same class, have
      the same method name, and both are static or neither is.
    * No file is a temporary one, if the suffix is neither empty nor ends in `.sk`.
    * No file is the directory of a class, nor one on the way to it from the scripts path. -/
theorem functionPath_collision_free (h : Layout.Distinct m ss) (hd : l.depth = .levels levels)
    (hl : l'.toLayout = l.toLayout) :
    (∀ s ∈ ss, ∀ f name, f.name = .text name → ∃ p, (l.functionPath m s f).1 = .ok p) ∧
    (∀ s ∈ ss, ∀ t ∈ ss, ∀ f g name name' p,
      f.name = .text name → '/' ∉ name.toList → g.name = .text name' → '/' ∉ name'.toList →
      (l.functionPath m s f).1 = .ok p → (l'.functionPath m t g).1 = .ok p →
        s = t ∧ f.methodName = g.methodName ∧ f.isStatic = g.isStatic) ∧
    (∀ s ∈ ss, ∀ t ∈ ss, ∀ f g p q temp (writer : Staging) suffix,
      writer.suffix = .text suffix → suffix ≠ "" → ¬ ".sk".toList <:+ suffix.toList →
      (l.functionPath m s f).1 = .ok p → (l'.functionPath m t g).1 = .ok q →
        writer.tempPath q = .ok temp → p ≠ temp) ∧
    ∀ s ∈ ss, ∀ t ∈ ss, ∀ f p c,
      (l'.functionPath m s f).1 = .ok p → (l.classPath m t).1 = .ok c →
        p ≠ c ∧ ∀ d : FilePath, l.scriptsPath.parts <+: d.parts → d.parts ≠ l.scriptsPath.parts →
          d.parts <+: c.parts → p ≠ d := by
  refine ⟨fun s hs f name hname => ?_, ?_, ?_, ?_⟩
  · obtain ⟨method, hmethod, -, -⟩ := HostFunction.isMethodText hname
    obtain ⟨c, -, -, -, hc, -⟩ := h.classPath hs hd
    exact ⟨_, functionPath_of_classPath hmethod hc⟩
  · intro s hs t ht f g name name' p hf hslash hg hslash' hp hp'
    exact functionPath_inj h hd hl hs ht hf hslash hg hslash' hp hp'
  · intro s _ t _ f g p q temp writer suffix hw hne hsk hp hq htemp
    exact functionPath_ne_tempPath hw hne hsk hp hq htemp
  · intro s _ t ht f p c hp hc
    -- the directory of a class is itself one on the way to it
    refine ⟨fun heq => ?_, fun d hbelow hne habove =>
      functionPath_ne_directory h hd ht hp hc hbelow hne habove⟩
    obtain ⟨_, _, _, _, hck, hat⟩ := h.classPath ht hd
    obtain rfl := Except.ok.inj (hc.symm.trans hck)
    refine functionPath_ne_directory h hd ht hp hc ?_ ?_ (List.prefix_refl _)
      (congrArg NormalPath.toFilePath heq)
    · rw [hat.path]
      exact List.prefix_append _ _
    · rw [hat.path]
      simp

/-- A class of a given name and parent. -/
def classCalled (name : String) (parent : Option Scalar) : Struct where
  name := .text name
  classMark := .bool true
  flags := []
  tooltip := .text ""
  category := .text ""
  parent
  properties := []
  functions := []

/-- Two classes, one of which is the super of the other one. -/
def actorAndPawn : Model where
  enums := .empty
  structs := .ofList
    [(.text "Actor", classCalled "Actor" none),
     (.text "Pawn", classCalled "Pawn" (some (.text "Actor")))]

/-- A layout that leaves no room for supers. -/
def flatLayout : TrackedLayout :=
  ⟨⟨.ofPart "out", .levels 1⟩, []⟩

/-- A function without parameters. -/
def jump : HostFunction :=
  ⟨.text "Jump", [], none, .bool false, .text "", .text ""⟩

/-- The super and the class have different files for `jump`, and neither is staged in the place of
    the other one. -/
theorem functionPath_collision_free_pawn :
    ∃ p q, (flatLayout.functionPath actorAndPawn (classCalled "Actor" none) jump).1 = .ok p ∧
      (flatLayout.functionPath actorAndPawn (classCalled "Pawn" (some (.text "Actor"))) jump).1 =
        .ok q ∧ p ≠ q ∧
      ∀ temp, (Staging.create (.text "utf-8") (.text ".tmp")).tempPath q = .ok temp → p ≠ temp := by
  let actor := classCalled "Actor" none
  let pawn := classCalled "Pawn" (some (.text "Actor"))
  let ss : Set Struct := { s | s ∈ [actor, pawn] }
  have hactor : actor ∈ ss := List.mem_cons_self
  have hpawn : pawn ∈ ss := List.mem_cons_of_mem _ List.mem_cons_self
  have hword : (Scalar.text "Actor").IsWord := ⟨_, rfl, by decide⟩
  have hdistinct : Layout.Distinct actorAndPawn ss := by
    refine ⟨fun s hs => ?_, fun s hs => ?_, fun s hs t ht heq => ?_⟩
    · rcases List.mem_pair.mp hs with rfl | rfl
      · exact hword
      · exact ⟨_, rfl, by decide⟩
    · rcases List.mem_pair.mp hs with rfl | rfl
      · exact ⟨[], rfl, by simp⟩
      · exact ⟨[.text "Actor"], rfl, by simpa using hword⟩
    · rcases List.mem_pair.mp hs with rfl | rfl <;> rcases List.mem_pair.mp ht with rfl | rfl
      · rfl
      · exact absurd heq (by decide)
      · exact absurd heq (by decide)
      · rfl
  obtain ⟨hfile, hinj, htemp, -⟩ :=
    functionPath_collision_free hdistinct (rfl : flatLayout.depth = .levels 1)
      (rfl : flatLayout.toLayout = flatLayout.toLayout)
  obtain ⟨p, hp⟩ := hfile actor hactor jump "Jump" rfl
  obtain ⟨q, hq⟩ := hfile pawn hpawn jump "Jump" rfl
  refine ⟨p, q, hp, hq, ?_, fun temp => ?_⟩
  · rintro rfl
    obtain ⟨heq, -⟩ :=
      hinj actor hactor pawn hpawn jump jump "Jump" "Jump" p rfl (by decide) rfl (by decide) hp hq
    exact absurd (congrArg (fun s => s.name) heq) (by decide)
  · exact htemp actor hactor pawn hpawn jump jump p q temp _ ".tmp" rfl (by decide) (by decide)
      hp hq

end TrackedLayout

end ScriptBindings

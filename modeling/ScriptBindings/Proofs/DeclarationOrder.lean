import Mathlib.Data.List.Nodup
import ScriptBindings.Model.Ancestors
import ScriptBindings.Proofs.DocumentedDumps
import ScriptBindings.ScriptType

/-!
# The order of declarations

A dump in which no two structs and no two enums have one name can list its declarations in any
order. It is accepted in all orders or in none, and the models have the same under each name: the
same heads, supers and members, and so the same ancestors and script types.

## Key results

- `lastNamed_perm`, `lastParent_perm`: names that are given once stand for the same in any order
- `Dump.IsConsistent.of_rearranges`: a rearranged dump is as consistent as before
- `Struct.Mirrors.unique`: a declaration describes one struct only
- `Model.Mirrors.agree`: models of rearranged dumps agree on each name
- `Model.ofJson_rearranged`: the order in which a JSON value lists declarations does not matter
-/

namespace ScriptBindings

variable {α β γ : Type} {m m' : Model} {dump dump' : Dump} {owner : Scalar}

/-! ## Names that are given once -/

/-- A name that is given once is given by one declaration. -/
theorem length_filter_key_le {ds : List (Scalar × α)} (hapart : (declaredKeys ds).Nodup)
    (k : Scalar) : (ds.filter fun d => d.1.key = k).length ≤ 1 := by
  -- keys of declarations that are kept are apart, as they were before
  have hkeys : (declaredKeys (ds.filter fun d => d.1.key = k)).Nodup :=
    hapart.sublist (List.filter_sublist.map _)
  have hsame : ∀ key ∈ declaredKeys (ds.filter fun d => d.1.key = k), key = k := by
    intro key hkey
    obtain ⟨d, hd, rfl⟩ := List.mem_map.mp hkey
    exact of_decide_eq_true (List.mem_filter.mp hd).2
  -- the same key over and over again, but each one once
  rw [List.eq_replicate_of_mem hsame, List.nodup_replicate] at hkeys
  simpa [declaredKeys] using hkeys

/-- What goes by a name that is given once does not depend on the order. -/
theorem filter_key_perm {ds ds' : List (Scalar × α)} (h : ds.Perm ds')
    (hapart : (declaredKeys ds).Nodup) (k : Scalar) :
    (ds'.filter fun d => d.1.key = k) = ds.filter fun d => d.1.key = k := by
  have hperm := h.filter fun d => d.1.key = k
  have hlength := length_filter_key_le hapart k
  -- what goes by the key is nothing, or a single declaration
  cases hds : ds.filter fun d => d.1.key = k with
  | nil =>
    rw [hds] at hperm
    exact hperm.nil_eq.symm
  | cons d rest =>
    rw [hds] at hperm hlength
    obtain rfl : rest = [] := by
      apply List.eq_nil_of_length_eq_zero
      rw [List.length_cons] at hlength
      omega
    exact List.perm_singleton.mp hperm.symm

/-- The last declaration of a name that is given once is the same in any order. -/
theorem lastNamed_perm {ds ds' : List (Scalar × α)} (h : ds.Perm ds')
    (hapart : (declaredKeys ds).Nodup) (k : Scalar) : lastNamed ds' k = lastNamed ds k := by
  rw [lastNamed, filter_key_perm h hapart, lastNamed]

/-- The super of a name that is given once is the same in any order. -/
theorem lastParent_perm {ds ds' : List (Scalar × StructDecl)} (h : ds.Perm ds')
    (hapart : (declaredKeys ds).Nodup) (k : Scalar) : lastParent ds' k = lastParent ds k := by
  rw [lastParent, filter_key_perm h hapart, lastParent]

/-- Two tables hold the same of each name, if the same is declared last under each name and a
    declaration leaves no choice. -/
theorem HoldsLast.map_get?_eq {R R' : Scalar × α → β → Prop} {ds ds' : List (Scalar × α)}
    {t t' : Table Scalar β} {f : β → γ} (h : HoldsLast R ds t) (h' : HoldsLast R' ds' t')
    (hlast : ∀ k, lastNamed ds' k = lastNamed ds k)
    (hunique : ∀ d ∈ ds, ∀ v v', R d v → R' d v' → f v' = f v) (k : Scalar) :
    (t'.get? k).map f = (t.get? k).map f := by
  -- both tables are asked for the same last declaration
  have hrel' := h'.last k
  rw [hlast k] at hrel'
  refine (h.last k).map_eq hrel' fun d hd => hunique d ?_
  exact (List.mem_filter.mp (List.mem_of_getLast? hd)).1

/-! ## Rearranged dumps -/

/-- Two dumps that list the same declarations in some order. -/
structure Dump.Rearranges (dump dump' : Dump) : Prop where
  enums : dump.enums.Perm dump'.enums
  structs : dump.structs.Perm dump'.structs

/-- A dump that gives no name to two structs or to two enums. The names of enums are texts. -/
structure Dump.NamesApart (dump : Dump) : Prop where
  enums : (declaredKeys dump.namedEnums).Nodup
  structs : (declaredKeys dump.namedStructs).Nodup
  enumNames : ∀ d ∈ dump.namedEnums, ∃ name, d.1 = .text name

namespace Dump.Rearranges

/-- The named enums are those from before. -/
theorem namedEnums (h : dump.Rearranges dump') : dump.namedEnums.Perm dump'.namedEnums :=
  h.enums.filterMap _

/-- The named structs are those from before. -/
theorem namedStructs (h : dump.Rearranges dump') : dump.namedStructs.Perm dump'.namedStructs :=
  h.structs.filterMap _

/-- What has been rearranged can be put back. -/
theorem symm (h : dump.Rearranges dump') : dump'.Rearranges dump := ⟨h.enums.symm, h.structs.symm⟩

end Dump.Rearranges

/-! ## Consistency -/

section Declared

variable (hstructs : ∀ name, dump.DeclaresStruct name → dump'.DeclaresStruct name)
  (henums : ∀ name, dump.DeclaresEnum name → dump'.DeclaresEnum name)

/-- What holds of a part in one sense holds of it in a weaker one. -/
theorem Part.Holds.imp {P Q : α → Prop} {part : Part α} (hPQ : ∀ a, P a → Q a) (h : part.Holds P) :
    part.Holds Q := by
  obtain ⟨a, ha, hP⟩ := h
  exact ⟨a, ha, hPQ a hP⟩

include hstructs henums

/-- What a property tells about itself stays known when more is declared. -/
theorem DescriptorDecl.IsConsistent.mono {d : DescriptorDecl} (h : d.IsConsistent dump) :
    d.IsConsistent dump' where
  kind := h.kind
  flags := h.flags
  struct := fun reference hmem => (h.struct reference hmem).imp hstructs
  classInfo := fun reference hmem => (h.classInfo reference hmem).imp hstructs
  enum := fun reference hmem => (h.enum reference hmem).imp henums

/-- What a property tells stays known when more is declared. -/
theorem PropertyDecl.IsConsistent.mono {d : PropertyDecl} (h : d.IsConsistent dump) :
    d.IsConsistent dump' := by
  -- induction on the levels, each with a head of its own
  induction d with
  | malformed fault => exact h
  | plain head => exact DescriptorDecl.IsConsistent.mono hstructs henums h
  | containing head element ih =>
    exact ⟨DescriptorDecl.IsConsistent.mono hstructs henums h.1, ih h.2⟩

/-- What a function takes and returns stays known when more is declared. -/
theorem FunctionDecl.IsConsistent.mono {f : FunctionDecl} (h : f.IsConsistent dump) :
    f.IsConsistent dump' where
  params := fun p hp => (h.params p hp).mono hstructs henums
  result := fun p hp => (h.result p hp).mono hstructs henums

/-- What the declaration of a struct tells stays known when more is declared. -/
theorem StructDecl.IsConsistent.mono {d : StructDecl} (h : d.IsConsistent dump) :
    d.IsConsistent dump' where
  name := h.name
  flags := h.flags
  parent := fun reference hmem => (h.parent reference hmem).imp hstructs
  properties := fun p hp => (h.properties p hp).mono hstructs henums
  functions := fun f hf => (h.functions f hf).imp fun _ hd =>
    FunctionDecl.IsConsistent.mono hstructs henums hd

end Declared

/-- A rearranged dump is as consistent as before. -/
theorem Dump.IsConsistent.of_rearranges (h : dump.IsConsistent) (hr : dump.Rearranges dump') :
    dump'.IsConsistent := by
  -- declared names are looked up by membership, which no order changes
  have hstructs : ∀ name, dump.DeclaresStruct name → dump'.DeclaresStruct name :=
    fun _ => (hr.namedStructs.map fun d => d.1.key).mem_iff.mp
  have henums : ∀ name, dump.DeclaresEnum name → dump'.DeclaresEnum name :=
    fun _ => (hr.namedEnums.map fun d => d.1.key).mem_iff.mp
  constructor
  · intro e he
    exact h.enums e (hr.enums.mem_iff.mpr he)
  · -- each struct was consistent before, among the same names
    intro d hd
    have hold := h.structs d (hr.structs.mem_iff.mpr hd)
    exact hold.imp fun _ hconsistent => hconsistent.mono hstructs henums

/-! ## What a declaration describes -/

/-- A declaration describes one enum, if its name is a text. -/
theorem EnumType.Mirrors.unique {d : Scalar × EnumType} {e e' : EnumType}
    (hname : ∃ name, d.1 = .text name) (h : EnumType.Mirrors d e) (h' : EnumType.Mirrors d e') :
    e' = e := by
  -- an enum is its declaration, with the name under which it was first listed
  obtain ⟨name, hname⟩ := hname
  obtain ⟨heq, -, hfirst⟩ := h
  obtain ⟨heq', -, hfirst'⟩ := h'
  -- the name under which an enum is listed has the key of its name, and a text has a key of its own
  rw [hname, Scalar.key_text, Scalar.key_eq_text] at hfirst hfirst'
  rw [heq, heq', hfirst, hfirst']

/-- A declaration describes one head of a struct. -/
theorem StructHead.Mirrors.unique {d : Scalar × StructDecl} {head head' : StructHead}
    (h : StructHead.Mirrors d head) (h' : StructHead.Mirrors d head') : head' = head := by
  -- of the head, only the flags are not copied from the declaration
  have hflags : head'.flags = head.flags := Except.ok.inj (h'.flags.symm.trans h.flags)
  rw [h.eq, h'.eq, hflags]

/-- A declaration describes one property. -/
theorem Property.Mirrors.unique {d : PropertyDecl} {p p' : Property}
    (h : Property.Mirrors m owner d p) (h' : Property.Mirrors m owner d p') : p = p' :=
  Except.ok.inj ((Property.resolve_eq_ok.mpr h).symm.trans (Property.resolve_eq_ok.mpr h'))

/-- A declaration describes one function. -/
theorem HostFunction.MirrorsPart.unique {part : Part FunctionDecl} {f f' : HostFunction}
    (h : HostFunction.MirrorsPart m owner part f) (h' : HostFunction.MirrorsPart m owner part f') :
    f = f' :=
  Except.ok.inj ((HostFunction.resolve_eq_ok.mpr h).symm.trans (HostFunction.resolve_eq_ok.mpr h'))

/-- A reference leads to one super. -/
theorem Model.HasParent.unique {reference : Part Scalar} {p p' : Scalar}
    (h : m.HasParent reference p) (h' : m.HasParent reference p') : p = p' := by
  -- both references give the same name, and so lead to the same head
  obtain ⟨head, ⟨name, hname, hfound⟩, rfl⟩ := h
  obtain ⟨head', ⟨name', hname', hfound'⟩, rfl⟩ := h'
  obtain rfl := Except.ok.inj (hname.symm.trans hname')
  rw [Option.some.inj (hfound.symm.trans hfound')]

/-- A declaration describes one struct. Of a model, only the heads of structs and the enums
    count. -/
theorem Struct.Mirrors.unique {ds ds' : List (Scalar × StructDecl)} {d : Scalar × StructDecl}
    {s s' : Struct} (hheads : ∀ k, m'.head? k = m.head? k)
    (henums : ∀ k, m'.enums.get? k = m.enums.get? k)
    (hparents : lastParent ds' d.1.key = lastParent ds d.1.key)
    (h : Struct.Mirrors m ds d s) (h' : Struct.Mirrors m' ds' d s') : s' = s := by
  have hhead : s'.toStructHead = s.toStructHead := h.head.unique h'.head
  have hname : s'.name = s.name := congrArg StructHead.name hhead
  -- what the second struct refers to is looked up in the first model
  have hheads' : ∀ k, m.head? k = m'.head? k := fun k => (hheads k).symm
  have henums' : ∀ k, m.enums.get? k = m'.enums.get? k := fun k => (henums k).symm
  -- the super: the same reference, looked up among the same heads
  have hparent : s'.parent = s.parent := by
    have hp' := h'.parent
    rw [hparents, show m'.HasParent = m.HasParent by
      unfold Model.HasParent; rw [funext hheads]] at hp'
    have hsame := h.parent.map_eq (f := id) hp' fun _ _ _ _ hp hp' => hp'.unique hp
    simpa using hsame
  -- properties and functions: one for one, as each declaration leaves no choice
  have hproperties : s'.properties = s.properties := by
    have hs' := h'.properties.imp fun _ _ hp => hp.of_heads hheads' henums'
    rw [hname] at hs'
    have hunique : Relator.RightUnique (Property.Mirrors m s.name) :=
      fun _ _ _ => Property.Mirrors.unique
    exact hunique.forall₂ hs' h.properties
  have hfunctions : s'.functions = s.functions := by
    have hs' := h'.functions.imp fun _ _ hf => hf.of_heads hheads' henums'
    rw [hname] at hs'
    have hunique : Relator.RightUnique (HostFunction.MirrorsPart m s.name) :=
      fun _ _ _ => HostFunction.MirrorsPart.unique
    exact hunique.forall₂ hs' h.functions
  -- two structs are the same if their parts are
  cases s
  cases s'
  simp only [Struct.mk.injEq]
  exact ⟨hhead, hparent, hproperties, hfunctions⟩

/-! ## Models that agree -/

/-- All properties of a struct or class, with the parameters and the results of its functions. -/
def Struct.allProperties (s : Struct) : List Property :=
  s.properties ++ s.functions.flatMap fun f => f.params ++ f.result.toList

/-- What the properties of a struct or class are in scripts: their types, whether they are exported,
    and what their types are called. -/
def Struct.exports (s : Struct) : List (ScriptType × Bool × Scalar) :=
  s.allProperties.map fun p => (p.scriptType, p.isSupported, p.displayName)

/-- Two models that tell the same of each name, whatever the order of their declarations. -/
structure Model.Agree (m m' : Model) : Prop where
  enums : ∀ k, m'.enums.get? k = m.enums.get? k
  structs : ∀ k, m'.structs.get? k = m.structs.get? k
  climb : ∀ name, m'.ancestors name = m.ancestors name
  ancestors : ∀ name, m'.ancestors? name = m.ancestors? name
  exports : ∀ k, (m'.structs.get? k).map Struct.exports = (m.structs.get? k).map Struct.exports

namespace Model

/-- Models agree if what is registered under each name is the same. -/
theorem Agree.of_get? (henums : ∀ k, m'.enums.get? k = m.enums.get? k)
    (hstructs : ∀ k, m'.structs.get? k = m.structs.get? k) : m.Agree m' := by
  -- climbs ask a model for parents only
  have hparent : m'.parent? = m.parent? := by
    funext name
    rw [parent?, hstructs, parent?]
  have hclimb : ∀ name, m'.ancestors name = m.ancestors name := by
    intro name
    rw [Model.ancestors, hparent, Model.ancestors]
  exact {
    enums := henums
    structs := hstructs
    climb := hclimb
    ancestors := fun name => by rw [ancestors?, hclimb, ancestors?]
    exports := fun k => by rw [hstructs] }

/-- Models of rearranged dumps agree on each name. -/
theorem Mirrors.agree (h : m.Mirrors dump) (h' : m'.Mirrors dump') (hr : dump.Rearranges dump')
    -- the last declarations are the same in both orders
    (hapart : dump.NamesApart) : m.Agree m' := by
  have hlast : ∀ k, lastNamed dump'.namedStructs k = lastNamed dump.namedStructs k :=
    lastNamed_perm hr.namedStructs hapart.structs
  -- enums refer to nothing, so each is fixed by its declaration alone
  have henums : ∀ k, m'.enums.get? k = m.enums.get? k := by
    intro k
    have hsame := h.enums.map_get?_eq h'.enums (f := id)
      (lastNamed_perm hr.namedEnums hapart.enums)
      (fun d hd _ _ => EnumType.Mirrors.unique (hapart.enumNames d hd)) k
    simpa using hsame
  -- references are looked up among the heads, so these come first
  have hheads : ∀ k, m'.head? k = m.head? k :=
    h.structs.map_get?_eq h'.structs hlast fun _ _ _ _ hs hs' => hs.head.unique hs'.head
  have hparents := lastParent_perm hr.namedStructs hapart.structs
  -- with heads and enums settled, declarations fix the structs too
  have hstructs : ∀ k, m'.structs.get? k = m.structs.get? k := by
    intro k
    have hsame := h.structs.map_get?_eq h'.structs (f := id) hlast
      (fun d _ _ _ => Struct.Mirrors.unique hheads henums (hparents d.1.key)) k
    simpa using hsame
  exact .of_get? henums hstructs

end Model

/-! ## Rearranged values -/

namespace Json

/-- A list with the items of another one in some order. -/
def Permutes (v v' : Json) : Prop :=
  ∃ items items', v = array items ∧ v' = array items' ∧ items.Perm items'

/-- A dump with the enums and the structs of another one, each listed in some order. -/
structure Rearranges (j j' : Json) : Prop where
  isObject : ∃ members, j' = object members
  enums : Option.Rel Permutes (j.member? "enums") (j'.member? "enums")
  structs : Option.Rel Permutes (j.member? "structs") (j'.member? "structs")

/-- A value that lists no two items of one name. -/
def NamesApart (j : Json) (field : String) : Prop :=
  ∀ items, j.member? field = some (array items) → (items.map fun item => item.member? "name").Nodup

end Json

/-- The items of a list are read in the order in which they stand. -/
theorem Part.listOf_perm {element : Json → α} {faulty : Malformed → α} {v v' : Option Json}
    (h : Option.Rel Json.Permutes v v') :
    (listOf element faulty v).Perm (listOf element faulty v') := by
  cases h with
  | none => exact .nil
  | some hv =>
    -- elements are read one by one, so a rearrangement of the list stays one
    obtain ⟨items, items', rfl, rfl, hperm⟩ := hv
    exact hperm.map element

/-- A rearranged dump is read as the same declarations in some order. -/
theorem Json.Rearranges.read {j j' : Json} (h : j.Rearranges j')
    (hdump : Dump.ofJson j = .ok dump) :
    ∃ dump', Dump.ofJson j' = .ok dump' ∧ dump.Rearranges dump' := by
  obtain ⟨members', rfl⟩ := h.isObject
  -- a dump is read from an object, and each of its lists on its own
  unfold Dump.ofJson at hdump
  split at hdump
  · obtain rfl := Except.ok.inj hdump
    exact ⟨_, rfl, Part.listOf_perm h.enums, Part.listOf_perm h.structs⟩
  · exact nomatch hdump

/-- Items with names of their own are declared under keys of their own. -/
theorem declaredKeys_nodup {items : List Json} {named : Json → Option (Scalar × α)}
    (h : ∀ item ∈ items, ∃ name d, item.member? "name" = some (.text name) ∧
      named item = some (.text name, d))
    (hapart : (items.map fun item => item.member? "name").Nodup) :
    (declaredKeys (items.filterMap named)).Nodup := by
  -- the names of the items are the keys of the declarations, one for one
  have hkeys : items.map (fun item => item.member? "name") =
      (declaredKeys (items.filterMap named)).map fun k => some (.scalar k) := by
    clear hapart
    induction items with
    | nil => rfl
    | cons item items ih =>
      obtain ⟨name, d, hname, hd⟩ := h item List.mem_cons_self
      have hrest := ih fun item hitem => h item (List.mem_cons_of_mem _ hitem)
      rw [List.filterMap_cons_some hd, List.map_cons, hrest, hname]
      rfl
  rw [hkeys] at hapart
  exact List.Nodup.of_map _ hapart

/-- A dump of the documented shape in which no name is given twice is read as such. -/
theorem Json.IsDump.namesApart {j : Json} (h : j.IsDump) (henums : j.NamesApart "enums")
    (hstructs : j.NamesApart "structs") (hdump : Dump.ofJson j = .ok dump) : dump.NamesApart := by
  obtain ⟨members, rfl⟩ := h.isObject
  obtain rfl := Except.ok.inj hdump
  -- every enum and every struct has a name that is a text
  have hnamedEnum : ∀ item : Json, item.IsEnum → ∃ name d, item.member? "name" = some (.text name) ∧
      EnumType.named? (EnumType.ofJson item) = some (.text name, d) := by
    intro item hitem
    obtain ⟨name, e, hname, he, heq⟩ := hitem.read
    exact ⟨name, e, hname, by rw [he, EnumType.named?, heq]⟩
  have hnamedStruct : ∀ item : Json, item.IsStruct →
      ∃ name d, item.member? "name" = some (.text name) ∧
        StructDecl.named? (StructDecl.ofJson item) = some (.text name, d) := by
    intro item hitem
    obtain ⟨name, d, hname, hd, heq⟩ := hitem.read
    exact ⟨name, d, hname, StructDecl.named?_eq_some.mpr ⟨hd, heq⟩⟩
  -- the names of each list are apart, and those of enums are texts
  constructor
  · cases hv : (object members).member? "enums" with
    | none => simp [Dump.namedEnums, Part.listOf, declaredKeys]
    | some v =>
      obtain ⟨items, rfl, hitems⟩ := h.enums v hv
      simp only [Dump.namedEnums, Part.listOf, elements?, List.filterMap_map]
      exact declaredKeys_nodup (fun item hitem => hnamedEnum item (hitems item hitem))
        (henums items hv)
  · cases hv : (object members).member? "structs" with
    | none => simp [Dump.namedStructs, Part.listOf, declaredKeys]
    | some v =>
      obtain ⟨items, rfl, hitems⟩ := h.structs v hv
      simp only [Dump.namedStructs, Part.listOf, elements?, List.filterMap_map]
      exact declaredKeys_nodup (fun item hitem => hnamedStruct item (hitems item hitem))
        (hstructs items hv)
  · -- a named enum comes from an item, which has the name that stands there
    intro d hd
    obtain ⟨part, hpart, hnamed⟩ := List.mem_filterMap.mp hd
    have htext : ∀ part ∈ Part.listOf EnumType.ofJson .error ((object members).member? "enums"),
        ∃ name d, EnumType.named? part = some (.text name, d) := by
      refine Part.forall_listOf h.enums fun item hitem => ?_
      obtain ⟨name, d, -, hd⟩ := hnamedEnum item hitem
      exact ⟨name, d, hd⟩
    obtain ⟨name, e, he⟩ := htext part hpart
    rw [he] at hnamed
    exact ⟨name, by rw [← Option.some.inj hnamed]⟩

/-- A dump of the documented shape in which no two structs and no two enums have one name can be
    rearranged. It is accepted as before, and the models agree on each name. -/
theorem Model.ofJson_rearranged {j j' : Json} (h : j.IsDump) (henums : j.NamesApart "enums")
    (hstructs : j.NamesApart "structs") (hr : j.Rearranges j') :
    ((∃ m', ofJson j' = .ok m') ↔ ∃ m, ofJson j = .ok m) ∧
      ∀ m m', ofJson j = .ok m → ofJson j' = .ok m' → m.Agree m' := by
  obtain ⟨dump, hdump, -⟩ := h.reported
  obtain ⟨dump', hdump', hrearranged⟩ := hr.read hdump
  -- both values are read as dumps, so the statement is about these
  have hread : ofJson j = ofDump dump := by
    rw [ofJson, hdump]
    rfl
  have hread' : ofJson j' = ofDump dump' := by
    rw [ofJson, hdump']
    rfl
  rw [hread, hread']
  constructor
  · -- accepted are the consistent dumps
    have haccept := (ofDump_firstFault dump).succeeds.trans Dump.faults_eq_nil
    have haccept' := (ofDump_firstFault dump').succeeds.trans Dump.faults_eq_nil
    rw [haccept, haccept']
    exact ⟨fun hc => hc.of_rearranges hrearranged.symm, fun hc => hc.of_rearranges hrearranged⟩
  · -- each model says what its dump declares, which fixes it name by name
    intro m m' hm hm'
    exact (ofDump_mirrors hm).agree (ofDump_mirrors hm') hrearranged
      (h.namesApart henums hstructs hdump)

/-- A dump of two structs that are each other's super; the first one refers to the second one below
    a list. -/
def Json.crossed (swapped : Bool) : Json :=
  let pawn := object [("name", text "Pawn"), ("super", text "Actor"),
    ("properties", array [object [("kind", text "array"),
      ("inner", object [("kind", text "struct"), ("struct", text "Actor")])]])]
  let actor := object [("name", text "Actor"), ("super", text "Pawn"),
    ("flags", array [text "required_api"])]
  object [("structs", array (if swapped then [actor, pawn] else [pawn, actor]))]

/-- The dump has the documented shape. -/
theorem Json.crossed_isDump : (crossed false).IsDump := by
  -- from the inside out: the element, the property, and the two structs
  have hinner : IsProperty (object [("kind", text "struct"), ("struct", text "Actor")]) := by
    refine .intro rfl (.of_none rfl) ?_ nofun
    simp [member?, Table.findPair, IsText]
  have hproperty : IsProperty (object [("kind", text "array"),
      ("inner", object [("kind", text "struct"), ("struct", text "Actor")])]) := by
    refine .intro rfl (.of_none rfl) ?_ fun v hv => Option.some.inj hv ▸ hinner
    simp [member?, Table.findPair]
  refine ⟨⟨_, rfl⟩, .of_none rfl, .of_array rfl (List.forall_mem_cons.mpr ⟨?_, ?_⟩)⟩
  · exact {
      isObject := ⟨_, rfl⟩
      name := ⟨_, rfl⟩
      flags := .of_none rfl
      parent := fun v hv _ => ⟨"Actor", (Option.some.inj hv).symm⟩
      properties := .of_array rfl (List.forall_mem_singleton.mpr hproperty)
      functions := .of_none rfl }
  · refine List.forall_mem_singleton.mpr {
      isObject := ⟨_, rfl⟩
      name := ⟨_, rfl⟩
      flags := .of_array rfl (List.forall_mem_singleton.mpr ⟨"required_api", rfl⟩)
      parent := fun v hv _ => ⟨"Pawn", (Option.some.inj hv).symm⟩
      properties := .of_none rfl
      functions := .of_none rfl }

/-- No name is given twice. -/
theorem Json.crossed_namesApart :
    (crossed false).NamesApart "enums" ∧ (crossed false).NamesApart "structs" := by
  refine ⟨nofun, fun items hitems => ?_⟩
  obtain rfl := array.inj (Option.some.inj hitems)
  simp [member?, Table.findPair]

/-- The list of structs is turned around. -/
theorem Json.crossed_rearranges : (crossed false).Rearranges (crossed true) :=
  ⟨⟨_, rfl⟩, .none, .some ⟨_, _, rfl, rfl, List.Perm.swap _ _ []⟩⟩

/-- In both orders the list is one of `Actor`, and the supers have no end. -/
theorem Model.ofJson_rearranged_crossed :
    (Json.crossed false).Rearranges (Json.crossed true) ∧
      ∃ m m', ofJson (Json.crossed false) = .ok m ∧ ofJson (Json.crossed true) = .ok m' ∧
        m.structs.keys = [.text "Pawn", .text "Actor"] ∧
        m'.structs.keys = [.text "Actor", .text "Pawn"] ∧
        (m'.structs.get? (.text "Pawn")).map Struct.exports =
          some [(.list, true, .text "List\x7bActor\x7d")] ∧
        m'.ancestors? (.text "Pawn") = .error ⟨.text "Pawn"⟩ ∧ m.Agree m' :=
  ⟨Json.crossed_rearranges, _, _, rfl, rfl, rfl, rfl, rfl, rfl,
    (ofJson_rearranged Json.crossed_isDump Json.crossed_namesApart.1 Json.crossed_namesApart.2
      Json.crossed_rearranges).2 _ _ rfl rfl⟩

end ScriptBindings

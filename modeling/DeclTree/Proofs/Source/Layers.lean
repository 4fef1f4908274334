import DeclTree.Proofs.Namespaces.Places
import DeclTree.Source.Language

/-!
# Layers of source files

What is read from a source file is layered: modules and namespaces hold each other, and no type,
member or parameter holds one. Each reading function is shown to make plain declarations, and the
two that recurse, over items and over statements, to make layered ones.
-/

namespace DeclTree

/-- What holds of a parse tree as soon as it holds of all its children holds of every one. -/
@[elab_as_elim] theorem ParseTree.induction {motive : ParseTree → Prop}
    (node : ∀ label children, (∀ c ∈ children, motive c) → motive (.node label children)) :
    ∀ t, motive t
  | .node label children => node label children fun c _ => induction node c

namespace Declaration

/-- The declarations in a list are plain. -/
def AllPlain (ds : List Declaration) : Prop := ∀ d ∈ ds, Plain d

theorem allPlain_nil : AllPlain [] := by simp [AllPlain]

theorem AllPlain.append {ds es : List Declaration} (hds : AllPlain ds) (hes : AllPlain es) :
    AllPlain (ds ++ es) := by
  intro d hd
  rcases List.mem_append.mp hd with hd | hd
  · exact hds d hd
  · exact hes d hd

theorem allPlain_filterMap {α : Type} {f : α → Option Declaration} {as : List α}
    (h : ∀ a d, f a = some d → Plain d) : AllPlain (as.filterMap f) := by
  intro d hd
  obtain ⟨a, -, ha⟩ := List.mem_filterMap.mp hd
  exact h a d ha

theorem allPlain_elim {α : Type} {f : α → List Declaration} (o : Option α)
    (h : ∀ a, AllPlain (f a)) : AllPlain (o.elim [] f) := by
  cases o with
  | none => exact allPlain_nil
  | some a => exact h a

theorem plain_typeParameter (name : String) (constraints : Constraints) :
    Plain (typeParameter name constraints) := .node nofun (by simp)

theorem plain_ofKind (kind : Kind) (name : String) (h : kind ≠ .namespace) :
    Plain (ofKind kind name) := .node h (by simp)

theorem Plain.mapHeader {d : Declaration} (h : Plain d) {f : Header → Header}
    (hf : ∀ header, (f header).kind = header.kind) : Plain (d.mapHeader f) := by
  cases h with
  | node kind inside => exact .node (by rwa [hf]) inside

theorem Plain.withVisibility {d : Declaration} (h : Plain d) (visibility : Accessibility) :
    Plain (d.withVisibility visibility) := h.mapHeader fun _ => rfl

theorem Plain.addChildren {d : Declaration} (h : Plain d) {more : List Declaration}
    (hmore : AllPlain more) : Plain (d.addChildren more) := by
  cases h with
  | node kind inside => exact .node kind (AllPlain.append inside hmore)

theorem kind_foldl {α : Type} {f : Header → α → Header}
    (hf : ∀ header a, (f header a).kind = header.kind) (as : List α) (header : Header) :
    (as.foldl f header).kind = header.kind := by
  induction as generalizing header with
  | nil => rfl
  | cons a as ih => rw [List.foldl_cons, ih, hf]

end Declaration

open Declaration

/-- What is in a list after one element was changed was in it before, or is the changed one. -/
theorem mem_changeFirst {α : Type} {test : α → Bool} {change : α → α} {as : List α} {b : α}
    (h : b ∈ changeFirst test change as) : b ∈ as ∨ ∃ a ∈ as, test a = true ∧ b = change a := by
  unfold changeFirst at h
  induction as with
  | nil => exact .inl h
  | cons a as ih =>
    rw [changeFirst?] at h
    split at h
    · rename_i htest
      rcases List.mem_cons.mp h with rfl | h
      · exact .inr ⟨a, by simp, htest, rfl⟩
      · exact .inl (by simp [h])
    · cases hchange : changeFirst? test change as with
      | none =>
        rw [hchange] at h
        exact .inl h
      | some bs =>
        rw [hchange] at h ih
        rcases List.mem_cons.mp h with rfl | h
        · exact .inl (by simp)
        · rcases ih h with hmem | ⟨c, hc, hb⟩
          · exact .inl (by simp [hmem])
          · exact .inr ⟨c, by simp [hc], hb⟩

theorem mem_changeLast {α : Type} {test : α → Bool} {change : α → α} {as : List α} {b : α}
    (h : b ∈ changeLast test change as) : b ∈ as ∨ ∃ a ∈ as, test a = true ∧ b = change a := by
  rcases mem_changeFirst (List.mem_reverse.mp h) with hb | ⟨a, ha, hb⟩
  · exact .inl (List.mem_reverse.mp hb)
  · exact .inr ⟨a, List.mem_reverse.mp ha, hb⟩

/-! ## Rust items -/

namespace Rust

theorem kind_addInterface (header : Header) (type : TypeName) :
    (addInterface header type).kind = header.kind := by
  unfold addInterface
  split <;> rfl

theorem kind_annotate (header : Header) (item : ParseTree) :
    (annotate header item).kind = header.kind := by
  unfold annotate
  split
  · rfl
  · split
    · rfl
    · split
      · exact kind_foldl kind_addInterface _ _
      · rfl

theorem allPlain_typeParameters (t : ParseTree) : AllPlain (typeParameters t) := by
  intro d hd
  obtain ⟨p, -, rfl⟩ := List.mem_map.mp hd
  exact plain_typeParameter p.name (constraintsOf p.bounds)

theorem plain_declare? {kind : Kind} {before : List ParseTree} {t : ParseTree} {d : Declaration}
    (h : declare? kind before t = some d) (hkind : kind ≠ .namespace) : Plain d := by
  obtain ⟨name, -, hd⟩ := Option.bind_eq_some_iff.mp h
  cases hd
  refine .node ?_ (allPlain_typeParameters t)
  rwa [kind_foldl kind_annotate]

theorem plain_field? {before : List ParseTree} {shown : Accessibility} {t : ParseTree}
    {d : Declaration} (h : field? before shown t = some d) : Plain d := by
  obtain ⟨e, he, rfl⟩ := Option.map_eq_some_iff.mp h
  exact (plain_declare? he nofun).withVisibility shown

theorem plain_parameter? {t : ParseTree} {d : Declaration} (h : parameter? t = some d) :
    Plain d := by
  unfold parameter? at h
  split at h
  · obtain ⟨pattern, -, rfl⟩ := Option.map_eq_some_iff.mp h
    exact plain_ofKind .parameter _ nofun
  · cases h

theorem plain_method? {before : List ParseTree} {shown : Accessibility} {t : ParseTree}
    {d : Declaration} (h : method? before shown t = some d) : Plain d := by
  obtain ⟨e, he, rfl⟩ := Option.map_eq_some_iff.mp h
  refine ((plain_declare? he nofun).withVisibility shown).addChildren ?_
  exact allPlain_elim _ fun list => allPlain_filterMap fun _ _ => plain_parameter?

theorem allPlain_members (imposed : Option Accessibility) (body : ParseTree) :
    AllPlain (members imposed body) := by
  refine allPlain_filterMap ?_
  rintro ⟨before, t⟩ d h
  dsimp only at h
  split at h
  · exact plain_method? h
  · exact plain_method? h
  · exact plain_field? h
  · cases h

theorem allPlain_structFields (t : ParseTree) : AllPlain (structFields t) := by
  unfold structFields
  split
  · exact allPlain_nil
  · split
    · refine allPlain_filterMap ?_
      rintro ⟨before, f⟩ d h
      dsimp only at h
      split at h
      · exact plain_field? h
      · cases h
    · exact allPlain_nil

theorem allPlain_variants (t : ParseTree) : AllPlain (variants t) := by
  refine allPlain_elim _ fun body => allPlain_filterMap ?_
  rintro ⟨before, v⟩ d h
  dsimp only at h
  split at h
  · exact plain_field? h
  · cases h

theorem plain_plainItem? {before : List ParseTree} {t : ParseTree} {d : Declaration}
    (h : plainItem? before t = some d) : Plain d := by
  unfold plainItem? at h
  split at h
  · obtain ⟨e, he, rfl⟩ := Option.map_eq_some_iff.mp h
    exact (plain_declare? he nofun).addChildren (allPlain_structFields t)
  · obtain ⟨e, he, rfl⟩ := Option.map_eq_some_iff.mp h
    exact (plain_declare? he nofun).addChildren (allPlain_variants t)
  · obtain ⟨e, he, rfl⟩ := Option.map_eq_some_iff.mp h
    refine ((plain_declare? he nofun).mapHeader fun header => ?_).addChildren ?_
    · exact kind_foldl kind_addInterface _ header
    · exact allPlain_elim _ (allPlain_members (some .public))
  · exact plain_method? h
  · exact plain_field? h
  · exact plain_field? h
  · cases h

theorem plain_extend {d : Declaration} (h : Plain d) (block : ParseTree) :
    Plain (extend block d) := by
  refine (h.mapHeader fun header => ?_).addChildren ?_
  · exact kind_foldl kind_addInterface _ header
  · exact allPlain_elim _ (allPlain_members _)

theorem layered_attach {ds : List Declaration} (h : ∀ d ∈ ds, Layered d) (block : ParseTree) :
    ∀ d ∈ attach ds block, Layered d := by
  unfold attach
  split
  · exact h
  · intro d hd
    rcases mem_changeLast hd with hd | ⟨e, he, htest, rfl⟩
    · exact h d hd
    · have hkind : e.kind ≠ .namespace := by
        intro hkind
        simp [hkind, Kind.isNamedType] at htest
      exact .plain (plain_extend ((h e he).plain_of_kind_ne hkind) block)

theorem layered_items {siblings : List ParseTree} (h : ∀ d ∈ itemsFrom [] siblings, Layered d) :
    ∀ d ∈ items siblings, Layered d := by
  suffices hblocks : ∀ (blocks : List ParseTree) (ds : List Declaration), (∀ d ∈ ds, Layered d) →
      ∀ d ∈ blocks.foldl attach ds, Layered d from hblocks (blocks siblings) _ h
  intro blocks
  induction blocks with
  | nil => exact fun _ hds => hds
  | cons block blocks ih => exact fun ds hds => ih _ (layered_attach hds block)

theorem exists_of_mem_itemsFrom {before ts : List ParseTree} {d : Declaration}
    (h : d ∈ itemsFrom before ts) : ∃ t ∈ ts, ∃ before, d ∈ item before t := by
  induction ts generalizing before with
  | nil => simp [itemsFrom] at h
  | cons t ts ih =>
    rw [itemsFrom] at h
    split at h
    · rcases List.mem_append.mp h with h | h
      · exact ⟨t, by simp, before, h⟩
      · obtain ⟨u, hu, found⟩ := ih h
        exact ⟨u, by simp [hu], found⟩
    · obtain ⟨u, hu, found⟩ := ih h
      exact ⟨u, by simp [hu], found⟩

theorem exists_of_bodyItems? {ts : List ParseTree} {ds : List Declaration}
    (h : bodyItems? ts = some ds) : ∃ t ∈ ts, ds = items t.children := by
  induction ts with
  | nil => simp [bodyItems?] at h
  | cons t ts ih =>
    obtain ⟨label, children⟩ := t
    rw [bodyItems?] at h
    split at h
    · cases h
      exact ⟨.node label children, by simp, rfl⟩
    · obtain ⟨u, hu, found⟩ := ih h
      exact ⟨u, by simp [hu], found⟩

/-- A module holds what its body holds, and nothing else holds a module. -/
theorem layered_declarations (file : ParseTree) : ∀ d ∈ declarations file, Layered d := by
  suffices h : (∀ before, ∀ d ∈ item before file, Layered d) ∧ ∀ d ∈ items file.children, Layered d
    from h.2
  induction file using ParseTree.induction with
  | node label children ih =>
    constructor
    · intro before d hd
      rw [item] at hd
      split at hd
      · split at hd
        · rename_i ds name hbody hname
          obtain ⟨body, hmem, rfl⟩ := exists_of_bodyItems? hbody
          obtain rfl := List.mem_singleton.mp hd
          exact .space rfl (ih body hmem).2
        · cases hd
      · exact .plain (plain_plainItem? (Option.mem_toList.mp hd))
    · refine layered_items fun d hd => ?_
      obtain ⟨t, ht, before, hd⟩ := exists_of_mem_itemsFrom hd
      exact (ih t ht).1 before d hd

end Rust

/-! ## TypeScript statements -/

namespace TypeScript

theorem allPlain_typeParameters (t : ParseTree) : AllPlain (typeParameters t) := by
  refine allPlain_elim _ fun list => allPlain_filterMap ?_
  intro p d h
  unfold typeParameter? at h
  split at h
  · obtain ⟨name, -, rfl⟩ := Option.map_eq_some_iff.mp h
    exact plain_typeParameter _ _
  · cases h

theorem allPlain_parameters (t : ParseTree) : AllPlain (parameters t) := by
  refine allPlain_elim _ fun list => allPlain_filterMap ?_
  intro p d h
  unfold parameter? at h
  split at h
  · obtain ⟨pattern, -, h⟩ := Option.bind_eq_some_iff.mp h
    split at h
    · cases h
    · cases h
      exact plain_ofKind .parameter _ nofun
  · cases h

theorem allPlain_signature (t : ParseTree) : AllPlain (typeParameters t ++ parameters t) :=
  (allPlain_typeParameters t).append (allPlain_parameters t)

theorem memberKind?_ne {t : ParseTree} {kind : Kind} (h : memberKind? t = some kind) :
    kind ≠ .namespace := by
  unfold memberKind? at h
  split at h <;> grind

theorem plain_member? {pending : List TypeName} {t : ParseTree} {d : Declaration}
    (h : member? pending t = some d) : Plain d := by
  obtain ⟨kind, hkind, h⟩ := Option.bind_eq_some_iff.mp h
  obtain ⟨name, -, h⟩ := Option.bind_eq_some_iff.mp h
  cases h
  refine .node (memberKind?_ne hkind) ?_
  split
  · exact allPlain_signature t
  · exact allPlain_nil

theorem allPlain_membersFrom (pending : List TypeName) (ts : List ParseTree) :
    AllPlain (membersFrom pending ts) := by
  induction ts generalizing pending with
  | nil => exact allPlain_nil
  | cons t ts ih =>
    rw [membersFrom]
    split
    · exact ih _
    · exact AllPlain.append (fun d hd => plain_member? (Option.mem_toList.mp hd)) (ih [])

theorem pairAccessors_sublist (seen : List String) (ds : List Declaration) :
    (pairAccessors seen ds).Sublist ds := by
  induction ds generalizing seen with
  | nil => exact .slnil
  | cons d ds ih =>
    rw [pairAccessors]
    split
    · split
      · exact (ih seen).cons d
      · exact (ih _).cons_cons d
    · exact (ih seen).cons_cons d

theorem kind_inheritFrom (header : Header) (clause : ParseTree) :
    (inheritFrom header clause).kind = header.kind := by
  unfold inheritFrom
  split <;> rfl

theorem plain_class? {shown : Accessibility} {outer : List TypeName} {t : ParseTree}
    {d : Declaration} (h : class? shown outer t = some d) : Plain d := by
  obtain ⟨name, -, h⟩ := Option.bind_eq_some_iff.mp h
  cases h
  refine .node ?_ ((allPlain_typeParameters t).append ?_)
  · rw [kind_foldl kind_inheritFrom]
    exact nofun
  · intro d hd
    have hmembers := (pairAccessors_sublist _ _).subset hd
    exact allPlain_elim _ (fun body : ParseTree => allPlain_membersFrom [] body.namedChildren) d
      hmembers

theorem plain_signature? {t : ParseTree} {d : Declaration} (h : signature? t = some d) :
    Plain d := by
  unfold signature? at h
  split at h
  · cases h
    exact .node nofun (allPlain_signature t)
  · cases h
    exact .node nofun allPlain_nil
  · cases h

theorem plain_interface? {shown : Accessibility} {t : ParseTree} {d : Declaration}
    (h : interface? shown t = some d) : Plain d := by
  obtain ⟨name, -, h⟩ := Option.bind_eq_some_iff.mp h
  cases h
  refine .node nofun ((allPlain_typeParameters t).append ?_)
  exact allPlain_elim _ fun body => allPlain_filterMap fun _ _ => plain_signature?

theorem plain_enum? {shown : Accessibility} {t : ParseTree} {d : Declaration}
    (h : enum? shown t = some d) : Plain d := by
  obtain ⟨name, -, rfl⟩ := Option.map_eq_some_iff.mp h
  refine .node nofun (allPlain_elim _ fun body => allPlain_filterMap ?_)
  intro m d hd
  obtain ⟨name, -, rfl⟩ := Option.map_eq_some_iff.mp hd
  exact (plain_ofKind .field _ nofun).withVisibility .public

theorem plain_function? {shown : Accessibility} {t : ParseTree} {d : Declaration}
    (h : function? shown t = some d) : Plain d := by
  obtain ⟨name, -, rfl⟩ := Option.map_eq_some_iff.mp h
  exact .node nofun (allPlain_signature t)

theorem plain_plainStatement? {exported : Bool} {outer : List TypeName} {t : ParseTree}
    {d : Declaration} (h : plainStatement? exported outer t = some d) : Plain d := by
  unfold plainStatement? at h
  dsimp only at h
  split at h
  · exact plain_class? h
  · exact plain_class? h
  · exact plain_interface? h
  · exact plain_enum? h
  · exact plain_function? h
  · exact plain_function? h
  · exact plain_function? h
  · cases h

theorem exists_of_mem_statements {exported : Bool} {ts : List ParseTree} {d : Declaration}
    (h : d ∈ statements exported ts) : ∃ t ∈ ts, d ∈ statement exported [] t := by
  induction ts with
  | nil => simp [statements] at h
  | cons t ts ih =>
    rw [statements] at h
    rcases List.mem_append.mp h with h | h
    · split at h
      · exact ⟨t, by simp, h⟩
      · cases h
    · obtain ⟨u, hu, hd⟩ := ih h
      exact ⟨u, by simp [hu], hd⟩

theorem exists_of_mem_exportedStatement {outer : List TypeName} {ts : List ParseTree}
    {d : Declaration} (h : d ∈ exportedStatement outer ts) :
    ∃ t ∈ ts, d ∈ statement true outer t := by
  induction ts with
  | nil => simp [exportedStatement] at h
  | cons t ts ih =>
    rw [exportedStatement] at h
    split at h
    · exact ⟨t, by simp, h⟩
    · obtain ⟨u, hu, hd⟩ := ih h
      exact ⟨u, by simp [hu], hd⟩

theorem exists_of_mem_spaceStatement {exported : Bool} {ts : List ParseTree} {d : Declaration}
    (h : d ∈ spaceStatement exported ts) : ∃ t ∈ ts, d ∈ statement exported [] t := by
  induction ts with
  | nil => simp [spaceStatement] at h
  | cons t ts ih =>
    rw [spaceStatement] at h
    split at h
    · split at h
      · exact ⟨t, by simp, h⟩
      · cases h
    · obtain ⟨u, hu, hd⟩ := ih h
      exact ⟨u, by simp [hu], hd⟩

theorem exists_of_mem_bodyStatements {ts : List ParseTree} {d : Declaration}
    (h : d ∈ bodyStatements ts) : ∃ t ∈ ts, d ∈ statements false t.children := by
  induction ts with
  | nil => simp [bodyStatements] at h
  | cons t ts ih =>
    obtain ⟨label, children⟩ := t
    rw [bodyStatements] at h
    split at h
    · exact ⟨.node label children, by simp, h⟩
    · obtain ⟨u, hu, hd⟩ := ih h
      exact ⟨u, by simp [hu], hd⟩

/-- A namespace holds what its body holds, and nothing else holds a namespace. -/
theorem layered_declarations (file : ParseTree) : ∀ d ∈ declarations file, Layered d := by
  suffices h : (∀ exported outer, ∀ d ∈ statement exported outer file, Layered d) ∧
      ∀ exported, ∀ d ∈ statements exported file.children, Layered d from h.2 false
  induction file using ParseTree.induction with
  | node label children ih =>
    have hstatements : ∀ exported, ∀ d ∈ statements exported children, Layered d := by
      intro exported d hd
      obtain ⟨t, ht, hd⟩ := exists_of_mem_statements hd
      exact (ih t ht).1 exported [] d hd
    refine ⟨?_, hstatements⟩
    intro exported outer d hd
    rw [statement] at hd
    split at hd
    · obtain ⟨t, ht, hd⟩ := exists_of_mem_exportedStatement hd
      exact (ih t ht).1 true _ d hd
    · split at hd
      · exact hstatements exported d hd
      · split at hd
        · obtain ⟨t, ht, hd⟩ := exists_of_mem_spaceStatement hd
          exact (ih t ht).1 exported [] d hd
        · split at hd
          · have hbody : ∀ d ∈ bodyStatements children, Layered d := by
              intro d hd
              obtain ⟨t, ht, hd⟩ := exists_of_mem_bodyStatements hd
              exact (ih t ht).2 false d hd
            cases hname : (ParseTree.node label children).childText? "name" with
            | none => simp [hname] at hd
            | some name =>
              rw [hname, Option.elim_some] at hd
              exact layered_nested hbody (spaceSegments name) d hd
          · exact .plain (plain_plainStatement? (Option.mem_toList.mp hd))

end TypeScript

theorem Language.layered_declarations (language : Language) (file : ParseTree) :
    ∀ d ∈ language.declarations file, Layered d := by
  cases language with
  | rust => exact Rust.layered_declarations file
  | typeScript => exact TypeScript.layered_declarations file

end DeclTree

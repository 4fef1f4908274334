import DeclTree.Proofs.Query.Chains
import DeclTree.Proofs.Source.Spaces

/-!
# Everything in a loaded tree is within reach

A walk enters a declaration only where the table of kinds lets it stand. Every reading function puts
declarations below a kind that may hold them, merging keeps this up because it only moves them from
one namespace to another, and closing leaves kinds alone. So the query for everything reports the
whole tree, except what is special and what lies inside something special.

One thing is taken from the grammar: fields, variants, constants and statics have no list of type
parameters, for which there would be no place below them.
-/

namespace DeclTree

namespace Declaration

/-- Everything in a declaration stands below a kind that may hold it. -/
inductive WellPlaced : Declaration → Prop
  | node {header : Header} {children : List Declaration}
      (allowed : ∀ c ∈ children, header.kind.mayContain c.kind = true)
      (inside : ∀ c ∈ children, WellPlaced c) : WellPlaced (.node header children)

/-- A declaration of a kind with everything in it well placed. -/
structure Proper (kind : Kind) (d : Declaration) : Prop where
  kind_eq : d.kind = kind
  placed : WellPlaced d

/-- Declarations that may stand below a kind, with everything in them well placed. -/
def Fit (parent : Kind) (ds : List Declaration) : Prop :=
  ∀ d ∈ ds, parent.mayContain d.kind = true ∧ WellPlaced d

theorem wellPlaced_node {header : Header} {children : List Declaration} :
    WellPlaced (.node header children) ↔ Fit header.kind children := by
  constructor
  · rintro ⟨allowed, inside⟩ c hc
    exact ⟨allowed c hc, inside c hc⟩
  · intro h
    exact .node (fun c hc => (h c hc).1) fun c hc => (h c hc).2

theorem WellPlaced.fit {d : Declaration} (h : WellPlaced d) : Fit d.kind d.children := by
  cases d
  exact wellPlaced_node.mp h

theorem fit_nil (parent : Kind) : Fit parent [] := by simp [Fit]

theorem Fit.append {parent : Kind} {ds es : List Declaration} (hds : Fit parent ds)
    (hes : Fit parent es) : Fit parent (ds ++ es) := by
  intro d hd
  rcases List.mem_append.mp hd with hd | hd
  · exact hds d hd
  · exact hes d hd

theorem Proper.fit {kind parent : Kind} {d : Declaration} (h : Proper kind d)
    (hkind : parent.mayContain kind = true) : parent.mayContain d.kind = true ∧ WellPlaced d :=
  ⟨h.kind_eq ▸ hkind, h.placed⟩

theorem fit_filterMap {α : Type} {f : α → Option Declaration} {as : List α} {parent : Kind}
    (h : ∀ a ∈ as, ∀ d, f a = some d → parent.mayContain d.kind = true ∧ WellPlaced d) :
    Fit parent (as.filterMap f) := by
  intro d hd
  obtain ⟨a, hmem, ha⟩ := List.mem_filterMap.mp hd
  exact h a hmem d ha

theorem fit_elim {α : Type} {f : α → List Declaration} {o : Option α} {parent : Kind}
    (h : ∀ a, o = some a → Fit parent (f a)) : Fit parent (o.elim [] f) := by
  cases o with
  | none => exact fit_nil parent
  | some a => exact h a rfl

theorem proper_node {header : Header} {kind : Kind} (hkind : header.kind = kind)
    {children : List Declaration} (h : Fit kind children) : Proper kind (.node header children) :=
  ⟨hkind, wellPlaced_node.mpr (hkind ▸ h)⟩

theorem proper_childless (header : Header) : Proper header.kind (.node header []) :=
  proper_node rfl (fit_nil header.kind)

theorem Proper.mapHeader {kind : Kind} {d : Declaration} (h : Proper kind d) {f : Header → Header}
    (hf : ∀ header, (f header).kind = header.kind) : Proper kind (d.mapHeader f) := by
  obtain ⟨header, children⟩ := d
  have hkind : (f header).kind = kind := (hf header).trans h.kind_eq
  exact proper_node hkind (h.kind_eq ▸ h.placed.fit)

theorem Proper.withVisibility {kind : Kind} {d : Declaration} (h : Proper kind d)
    (visibility : Accessibility) : Proper kind (d.withVisibility visibility) :=
  h.mapHeader fun _ => rfl

theorem Proper.addChildren {kind : Kind} {d : Declaration} (h : Proper kind d)
    {more : List Declaration} (hmore : Fit kind more) : Proper kind (d.addChildren more) := by
  obtain ⟨header, children⟩ := d
  have hchildren : Fit kind children := h.kind_eq ▸ h.placed.fit
  exact proper_node h.kind_eq (hchildren.append hmore)

/-! ## Merging and closing -/

theorem fit_nested {ds : List Declaration} (h : Fit .namespace ds) (segments : List String) :
    Fit .namespace (nested segments ds) := by
  induction segments with
  | nil => exact h
  | cons segment segments ih =>
    intro d hd
    obtain rfl := List.mem_singleton.mp hd
    exact ⟨rfl, wellPlaced_node.mpr ih⟩

theorem fit_mergeAll (siblings ds : List Declaration) (hsiblings : Fit .namespace siblings)
    (hds : Fit .namespace ds) : Fit .namespace (mergeAll siblings ds) := by
  induction siblings, ds using mergeAll_induction with
  | nil siblings => simpa using hsiblings
  | behind siblings d ds _ hmerge ih =>
    rw [mergeAll_cons, hmerge]
    have hd : Fit .namespace [d] := fun c hc => hds c (by simp_all)
    exact ih (hsiblings.append hd) fun c hc => hds c (by simp [hc])
  | inside front e rest d ds hkind hspace hmerge ihChildren ih =>
    -- Two namespaces become one, and a namespace may hold whatever either of them held.
    have hekind : e.kind = .namespace := (isSpace_iff.mp hspace).1
    have hold : Fit .namespace e.children := hekind ▸ (hsiblings e (by simp)).2.fit
    have hnew : Fit .namespace d.children := hkind ▸ (hds d (by simp)).2.fit
    have hfolded : Proper .namespace (.node e.header (mergeAll e.children d.children)) :=
      proper_node hekind (ihChildren hold hnew)
    rw [mergeAll_cons, hmerge]
    refine ih ?_ fun c hc => hds c (by simp [hc])
    intro c hc
    simp only [List.mem_append, List.mem_cons] at hc
    rcases hc with hc | rfl | hc
    · exact hsiblings c (by simp [hc])
    · exact hfolded.fit rfl
    · exact hsiblings c (by simp [hc])

theorem WellPlaced.closeIn {d : Declaration} (h : WellPlaced d) (index : List Inheritance.Site)
    (scope : String) : WellPlaced (Inheritance.closeIn index scope d) := by
  induction h generalizing scope with
  | @node header children allowed inside ih =>
    rw [Inheritance.closeIn, Inheritance.closeAllIn_eq_map, wellPlaced_node]
    intro d hd
    obtain ⟨c, hc, rfl⟩ := List.mem_map.mp hd
    have hkind : (Inheritance.closeIn index (Inheritance.scopeBelow scope header) c).kind =
        c.kind := by
      cases c
      rfl
    rw [hkind]
    exact ⟨allowed c hc, ih c hc _⟩

/-! ## Reporting everything -/

theorem WellPlaced.isChain_descent {root : Declaration} (h : WellPlaced root) {place : List Nat}
    {path : List Declaration} (hpath : root.descent place = some path) :
    (root :: path).IsChain fun a b => a.kind.mayContain b.kind = true := by
  induction place generalizing root path with
  | nil =>
    cases hpath
    exact .singleton root
  | cons i place ih =>
    rw [descent_cons, Option.bind_eq_some_iff] at hpath
    obtain ⟨c, hc, hpath⟩ := hpath
    obtain ⟨rest, hrest, rfl⟩ := Option.map_eq_some_iff.mp hpath
    obtain ⟨hallowed, hplaced⟩ := h.fit c (List.mem_of_getElem? hc)
    exact .cons_cons hallowed (ih hplaced hrest)

end Declaration

open Declaration

/-- In a well-placed tree the query for everything asks only that nothing on the way is special. -/
theorem Query.reports_all_iff {root : Declaration} (h : WellPlaced root) {o : Occurrence}
    (ho : o.Below root) : all.Reports root o ↔ ∀ d ∈ o.path, d.isSpecial = false := by
  have hincludes : all.includes o.target (qualifiedName o.spaces) = true := rfl
  have hvisit : ∀ d : Declaration, all.passesVisit d = true := fun _ =>
    passesVisit_iff.mpr fun _ htest => by cases htest
  unfold Reports AdmitsAll
  rw [and_iff_left hincludes, and_iff_right (h.isChain_descent ho)]
  simp [hvisit]

theorem Query.run_all_eq {root : Declaration} (h : WellPlaced root) :
    all.run root = (root.occurrences.filter fun o => ∀ d ∈ o.path, d.isSpecial = false).map
      Occurrence.entity := by
  rw [run_eq_runUnpruned, runUnpruned_eq_map]
  congr 1
  apply List.filter_congr
  intro o ho
  exact decide_eq_decide.mpr (reports_all_iff h (mem_occurrences.mp ho))

theorem Kind.mayContain_of_isNamedType {parent child : Kind} (hparent : parent.isNamedType = true)
    (hchild : child.isMember = true) : parent.mayContain child = true := by
  revert hparent hchild
  cases parent <;> cases child <;> decide

/-! ## Rust items -/

namespace Rust

/-- The kinds of nodes that fields are read from. -/
def fieldKinds : List String := ["field_declaration", "enum_variant", "const_item", "static_item"]

/-- A parse tree in which no field has a list of type parameters. -/
inductive Grammatical : ParseTree → Prop
  | node {label : ParseTree.Label} {children : List ParseTree}
      (bare : label.kind ∈ fieldKinds → ∀ c ∈ children, c.field ≠ "type_parameters")
      (inside : ∀ c ∈ children, Grammatical c) : Grammatical (.node label children)

theorem grammatical_node {label : ParseTree.Label} {children : List ParseTree} :
    Grammatical (.node label children) ↔
      (label.kind ∈ fieldKinds → ∀ c ∈ children, c.field ≠ "type_parameters") ∧
        ∀ c ∈ children, Grammatical c :=
  ⟨fun ⟨bare, inside⟩ => ⟨bare, inside⟩, fun ⟨bare, inside⟩ => .node bare inside⟩

theorem Grammatical.children {t : ParseTree} (h : Grammatical t) :
    ∀ c ∈ t.children, Grammatical c := by
  cases t
  exact (grammatical_node.mp h).2

theorem Grammatical.child? {t c : ParseTree} (h : Grammatical t) {field : String}
    (hc : t.child? field = some c) : Grammatical c :=
  h.children c (List.mem_of_find?_eq_some hc)

theorem Grammatical.typeParameters {t : ParseTree} (h : Grammatical t)
    (hkind : t.kind ∈ fieldKinds) : typeParameters t = [] := by
  obtain ⟨label, children⟩ := t
  have hbare := (grammatical_node.mp h).1 hkind
  have hlist : (ParseTree.node label children).child? "type_parameters" = none := by
    simpa [ParseTree.child?] using hbare
  have hpredicates : ∀ ts : List ParseTree, ts.foldl addPredicate [] = [] := by
    intro ts
    induction ts with
    | nil => rfl
    | cons t ts ih =>
      have hnone : addPredicate [] t = [] := by
        unfold addPredicate
        split <;> rfl
      rw [List.foldl_cons, hnone, ih]
  simp [Rust.typeParameters, hlist, hpredicates]

theorem fit_typeParameters (t : ParseTree) {parent : Kind}
    (hparent : parent.mayContain .typeParameter = true) : Fit parent (typeParameters t) := by
  intro d hd
  obtain ⟨p, -, rfl⟩ := List.mem_map.mp hd
  exact (proper_childless _).fit hparent

theorem proper_declare? {kind : Kind} {before : List ParseTree} {t : ParseTree} {d : Declaration}
    (h : declare? kind before t = some d) (ht : Fit kind (typeParameters t)) : Proper kind d := by
  obtain ⟨name, -, hd⟩ := Option.bind_eq_some_iff.mp h
  cases hd
  refine proper_node ?_ ht
  rw [kind_foldl kind_annotate]

theorem proper_field? {before : List ParseTree} {shown : Accessibility} {t : ParseTree}
    {d : Declaration} (ht : Grammatical t) (hkind : t.kind ∈ fieldKinds)
    (h : field? before shown t = some d) : Proper .field d := by
  obtain ⟨e, he, rfl⟩ := Option.map_eq_some_iff.mp h
  have hbare : Fit .field (typeParameters t) := ht.typeParameters hkind ▸ fit_nil .field
  exact (proper_declare? he hbare).withVisibility shown

theorem fit_parameters (t : ParseTree) : Fit .method (parameters t) := by
  refine fit_elim fun list _ => fit_filterMap ?_
  intro p _ d h
  unfold parameter? at h
  split at h
  · obtain ⟨pattern, -, rfl⟩ := Option.map_eq_some_iff.mp h
    exact (proper_childless _).fit rfl
  · cases h

theorem proper_method? {before : List ParseTree} {shown : Accessibility} {t : ParseTree}
    {d : Declaration} (h : method? before shown t = some d) : Proper .method d := by
  obtain ⟨e, he, rfl⟩ := Option.map_eq_some_iff.mp h
  have hdeclared : Proper .method e := proper_declare? he (fit_typeParameters t rfl)
  exact (hdeclared.withVisibility shown).addChildren (fit_parameters t)

theorem mem_of_mem_withPreceding {before ts : List ParseTree} {p : List ParseTree × ParseTree}
    (h : p ∈ withPreceding before ts) : p.2 ∈ ts := by
  induction ts generalizing before with
  | nil => cases h
  | cons t ts ih =>
    rw [withPreceding] at h
    split at h
    · rcases List.mem_cons.mp h with rfl | h
      · exact List.mem_cons_self
      · exact List.mem_cons_of_mem t (ih h)
    · exact List.mem_cons_of_mem t (ih h)

theorem fit_members (imposed : Option Accessibility) {body : ParseTree} (hbody : Grammatical body)
    {parent : Kind} (hparent : parent.isNamedType = true) : Fit parent (members imposed body) := by
  refine fit_filterMap ?_
  rintro ⟨before, t⟩ hmem d h
  have ht : Grammatical t := hbody.children t (mem_of_mem_withPreceding hmem)
  have hmember : ∀ {kind : Kind}, kind.isMember = true → parent.mayContain kind = true :=
    fun hkind => Kind.mayContain_of_isNamedType hparent hkind
  dsimp only at h
  split at h
  · exact (proper_method? h).fit (hmember rfl)
  · exact (proper_method? h).fit (hmember rfl)
  · rename_i hkind
    exact (proper_field? ht (by simp [fieldKinds, hkind]) h).fit (hmember rfl)
  · cases h

theorem fit_structFields {t : ParseTree} (ht : Grammatical t) : Fit .struct (structFields t) := by
  unfold structFields
  split
  · exact fit_nil .struct
  · rename_i body hbody
    split
    · refine fit_filterMap ?_
      rintro ⟨before, f⟩ hmem d h
      have hf : Grammatical f := (ht.child? hbody).children f (mem_of_mem_withPreceding hmem)
      dsimp only at h
      split at h
      · rename_i hkind
        exact (proper_field? hf (by simp [fieldKinds, hkind]) h).fit rfl
      · cases h
    · exact fit_nil .struct

theorem fit_variants {t : ParseTree} (ht : Grammatical t) : Fit .enum (variants t) := by
  refine fit_elim fun body hbody => fit_filterMap ?_
  rintro ⟨before, v⟩ hmem d h
  have hv : Grammatical v := (ht.child? hbody).children v (mem_of_mem_withPreceding hmem)
  dsimp only at h
  split at h
  · rename_i hkind
    exact (proper_field? hv (by simp [fieldKinds, hkind]) h).fit rfl
  · cases h

theorem fit_plainItem? {before : List ParseTree} {t : ParseTree} (ht : Grammatical t) :
    Fit .namespace (plainItem? before t).toList := by
  intro d hd
  have h : plainItem? before t = some d := Option.mem_toList.mp hd
  unfold plainItem? at h
  split at h
  · obtain ⟨e, he, rfl⟩ := Option.map_eq_some_iff.mp h
    have hdeclared : Proper .struct e := proper_declare? he (fit_typeParameters t rfl)
    exact (hdeclared.addChildren (fit_structFields ht)).fit rfl
  · obtain ⟨e, he, rfl⟩ := Option.map_eq_some_iff.mp h
    have hdeclared : Proper .enum e := proper_declare? he (fit_typeParameters t rfl)
    exact (hdeclared.addChildren (fit_variants ht)).fit rfl
  · obtain ⟨e, he, rfl⟩ := Option.map_eq_some_iff.mp h
    have hdeclared : Proper .interface e := proper_declare? he (fit_typeParameters t rfl)
    have hmembers : Fit .interface ((t.child? "body").elim [] (members (some .public))) :=
      fit_elim fun body hbody => fit_members _ (ht.child? hbody) rfl
    have hextended := hdeclared.mapHeader
      (kind_foldl kind_addInterface ((t.child? "bounds").elim [] boundTypes))
    exact (hextended.addChildren hmembers).fit rfl
  · exact (proper_method? h).fit rfl
  · rename_i hkind
    exact (proper_field? ht (by simp [fieldKinds, hkind]) h).fit rfl
  · rename_i hkind
    exact (proper_field? ht (by simp [fieldKinds, hkind]) h).fit rfl
  · cases h

theorem proper_extend {kind : Kind} {d : Declaration} {block : ParseTree}
    (hkind : kind.isNamedType = true) (h : Proper kind d) (hblock : Grammatical block) :
    Proper kind (extend block d) := by
  have hextended := h.mapHeader
    (kind_foldl kind_addInterface ((block.child? "trait").bind ParseTree.typeName?).toList)
  exact hextended.addChildren (fit_elim fun body hbody =>
    fit_members _ (hblock.child? hbody) hkind)

theorem fit_attach {ds : List Declaration} (h : Fit .namespace ds) {block : ParseTree}
    (hblock : Grammatical block) : Fit .namespace (attach ds block) := by
  unfold attach
  split
  · exact h
  · intro d hd
    rcases mem_changeLast hd with hd | ⟨e, he, htest, rfl⟩
    · exact h d hd
    · obtain ⟨hallowed, hplaced⟩ := h e he
      have hkind : e.kind.isNamedType = true := (Bool.and_eq_true_iff.mp htest).1
      exact (proper_extend hkind ⟨rfl, hplaced⟩ hblock).fit hallowed

theorem fit_items {siblings : List ParseTree} (hsiblings : ∀ t ∈ siblings, Grammatical t)
    (h : Fit .namespace (itemsFrom [] siblings)) : Fit .namespace (items siblings) := by
  have hblocks : ∀ block ∈ blocks siblings, Grammatical block := fun block hblock =>
    hsiblings block (mem_blocks.mp hblock).1
  unfold items
  generalize blocks siblings = blocks at hblocks
  generalize itemsFrom [] siblings = ds at h
  induction blocks generalizing ds with
  | nil => exact h
  | cons block blocks ih =>
    refine ih (fun b hb => hblocks b (by simp [hb])) _ ?_
    exact fit_attach h (hblocks block (by simp))

theorem fit_declarations {file : ParseTree} (h : Grammatical file) :
    Fit .namespace (declarations file) := by
  suffices hboth : (∀ before, Fit .namespace (item before file)) ∧
      Fit .namespace (items file.children) from hboth.2
  induction h with
  | @node label children bare inside ih =>
    constructor
    · intro before d hd
      rw [item] at hd
      split at hd
      · split at hd
        · rename_i ds name hbody hname
          obtain ⟨body, hmem, rfl⟩ := exists_of_bodyItems? hbody
          obtain rfl := List.mem_singleton.mp hd
          exact (proper_node rfl (ih body hmem).2).fit rfl
        · cases hd
      · exact fit_plainItem? (.node bare inside) d hd
    · refine fit_items inside fun d hd => ?_
      obtain ⟨t, ht, before, hd⟩ := exists_of_mem_itemsFrom hd
      exact (ih t ht).1 before d hd

end Rust

/-! ## TypeScript statements -/

namespace TypeScript

theorem fit_typeParameters (t : ParseTree) {parent : Kind}
    (hparent : parent.mayContain .typeParameter = true) : Fit parent (typeParameters t) := by
  refine fit_elim fun list _ => fit_filterMap ?_
  intro p _ d h
  unfold typeParameter? at h
  split at h
  · obtain ⟨name, -, rfl⟩ := Option.map_eq_some_iff.mp h
    exact (proper_childless _).fit hparent
  · cases h

theorem fit_parameters (t : ParseTree) : Fit .method (parameters t) := by
  refine fit_elim fun list _ => fit_filterMap ?_
  intro p _ d h
  unfold parameter? at h
  split at h
  · obtain ⟨pattern, -, h⟩ := Option.bind_eq_some_iff.mp h
    split at h
    · cases h
    · cases h
      exact (proper_childless _).fit rfl
  · cases h

theorem fit_signature (t : ParseTree) : Fit .method (typeParameters t ++ parameters t) :=
  (fit_typeParameters t rfl).append (fit_parameters t)

theorem isMember_memberKind? {t : ParseTree} {kind : Kind} (h : memberKind? t = some kind) :
    kind.isMember = true := by
  have hchoice : (if isAccessor t then Kind.property else .method).isMember = true := by
    split <;> rfl
  unfold memberKind? at h
  split at h
  · cases h
    exact hchoice
  · cases h
    exact hchoice
  · cases h
    exact hchoice
  · cases h
    rfl
  · cases h

theorem fit_membersFrom (pending : List TypeName) (ts : List ParseTree) :
    Fit .class (membersFrom pending ts) := by
  have hmember : ∀ {pending : List TypeName} {t : ParseTree} {d : Declaration},
      member? pending t = some d → Kind.class.mayContain d.kind = true ∧ WellPlaced d := by
    intro pending t d h
    obtain ⟨kind, hkind, h⟩ := Option.bind_eq_some_iff.mp h
    obtain ⟨name, -, h⟩ := Option.bind_eq_some_iff.mp h
    cases h
    refine (proper_node rfl ?_).fit
      (Kind.mayContain_of_isNamedType rfl (isMember_memberKind? hkind))
    split
    · rename_i hmethod
      exact hmethod ▸ fit_signature t
    · exact fit_nil kind
  induction ts generalizing pending with
  | nil => exact fit_nil .class
  | cons t ts ih =>
    rw [membersFrom]
    split
    · exact ih _
    · exact Fit.append (fun d hd => hmember (Option.mem_toList.mp hd)) (ih [])

theorem proper_class? {shown : Accessibility} {outer : List TypeName} {t : ParseTree}
    {d : Declaration} (h : class? shown outer t = some d) : Proper .class d := by
  obtain ⟨name, -, h⟩ := Option.bind_eq_some_iff.mp h
  cases h
  refine proper_node ?_ ((fit_typeParameters t rfl).append ?_)
  · rw [kind_foldl kind_inheritFrom]
  · intro d hd
    have hmembers := (pairAccessors_sublist _ _).subset hd
    exact fit_elim (fun body _ => fit_membersFrom [] body.namedChildren) d hmembers

theorem fit_signature? {t : ParseTree} {d : Declaration} (h : signature? t = some d) :
    Kind.interface.mayContain d.kind = true ∧ WellPlaced d := by
  unfold signature? at h
  split at h
  · cases h
    exact (proper_node rfl (fit_signature t)).fit rfl
  · cases h
    exact (proper_childless _).fit rfl
  · cases h

theorem proper_interface? {shown : Accessibility} {t : ParseTree} {d : Declaration}
    (h : interface? shown t = some d) : Proper .interface d := by
  obtain ⟨name, -, h⟩ := Option.bind_eq_some_iff.mp h
  cases h
  have hmembers : Fit .interface
      ((t.child? "body").elim [] fun body => body.namedChildren.filterMap signature?) :=
    fit_elim fun body _ => fit_filterMap fun _ _ _ => fit_signature?
  exact ⟨rfl, wellPlaced_node.mpr ((fit_typeParameters t rfl).append hmembers)⟩

theorem proper_enum? {shown : Accessibility} {t : ParseTree} {d : Declaration}
    (h : enum? shown t = some d) : Proper .enum d := by
  obtain ⟨name, -, rfl⟩ := Option.map_eq_some_iff.mp h
  refine ⟨rfl, wellPlaced_node.mpr (fit_elim fun body _ => fit_filterMap ?_)⟩
  intro m _ d hd
  obtain ⟨name, -, rfl⟩ := Option.map_eq_some_iff.mp hd
  exact ((proper_childless _).withVisibility .public).fit rfl

theorem proper_function? {shown : Accessibility} {t : ParseTree} {d : Declaration}
    (h : function? shown t = some d) : Proper .method d := by
  obtain ⟨name, -, rfl⟩ := Option.map_eq_some_iff.mp h
  exact ⟨rfl, wellPlaced_node.mpr (fit_signature t)⟩

theorem fit_plainStatement? (exported : Bool) (outer : List TypeName) (t : ParseTree) :
    Fit .namespace (plainStatement? exported outer t).toList := by
  intro d hd
  have h : plainStatement? exported outer t = some d := Option.mem_toList.mp hd
  unfold plainStatement? at h
  dsimp only at h
  split at h
  · exact (proper_class? h).fit rfl
  · exact (proper_class? h).fit rfl
  · exact (proper_interface? h).fit rfl
  · exact (proper_enum? h).fit rfl
  · exact (proper_function? h).fit rfl
  · exact (proper_function? h).fit rfl
  · exact (proper_function? h).fit rfl
  · cases h

theorem fit_declarations (file : ParseTree) : Fit .namespace (declarations file) := by
  suffices h : (∀ exported outer, Fit .namespace (statement exported outer file)) ∧
      ∀ exported, Fit .namespace (statements exported file.children) from h.2 false
  induction file using ParseTree.induction with
  | node label children ih =>
    have hstatements : ∀ exported, Fit .namespace (statements exported children) := by
      intro exported d hd
      obtain ⟨t, ht, hd⟩ := exists_of_mem_statements hd
      exact (ih t ht).1 exported [] d hd
    refine ⟨?_, hstatements⟩
    intro exported outer d hd
    rw [statement] at hd
    split at hd
    · obtain ⟨t, ht, hd⟩ := exists_of_mem_exportedStatement hd
      exact (ih t ht).1 true _ d hd
    · split at hd
      · exact hstatements exported d hd
      · split at hd
        · obtain ⟨t, ht, hd⟩ := exists_of_mem_spaceStatement hd
          exact (ih t ht).1 exported [] d hd
        · split at hd
          · have hbody : Fit .namespace (bodyStatements children) := by
              intro d hd
              obtain ⟨t, ht, hd⟩ := exists_of_mem_bodyStatements hd
              exact (ih t ht).2 false d hd
            exact fit_elim (fun name _ => fit_nested hbody (spaceSegments name)) d hd
          · exact fit_plainStatement? exported outer _ d hd

end TypeScript

/-! ## Loaded trees -/

namespace Source

/-- The parse trees of Rust files among the given ones are grammatical. -/
def AllGrammatical (files : List FoundFile) : Prop :=
  ∀ f ∈ files, f.extension? = some "rs" → ∀ t, f.content.tree = some t → Rust.Grammatical t

theorem eq_of_ofExtension?_rust {extension : String}
    (h : Language.ofExtension? extension = some .rust) : extension = "rs" := by
  unfold Language.ofExtension? at h
  split at h
  · rfl
  · cases h
  · cases h
  · cases h

theorem extension?_eq (f : FoundFile) :
    f.extension? = Path.extension? (f.names.getLast?.getD "") := by
  have hempty : Path.extension? "" = none := by decide
  unfold FoundFile.extension?
  cases f.names.getLast? with
  | none => exact hempty.symm
  | some name => rfl

theorem fit_found? {f : FoundFile} {ds : List Declaration} (h : found? f = some ds)
    (hrust : f.extension? = some "rs" → ∀ t, f.content.tree = some t → Rust.Grammatical t) :
    Fit .namespace ds := by
  unfold found? declarations at h
  split at h
  · cases h
  · cases h
  · rename_i text extension htext hextension
    split at h
    · cases h
    · rename_i language hlanguage
      cases htree : f.content.tree with
      | none =>
        rw [htree] at h
        cases h
        exact fit_nil .namespace
      | some file =>
        rw [htree] at h
        cases h
        cases language with
        | rust =>
          have hrs : f.extension? = some "rs" := by
            rw [extension?_eq, hextension, eq_of_ofExtension?_rust hlanguage]
          exact Rust.fit_declarations (hrust hrs file htree)
        | typeScript => exact TypeScript.fit_declarations file

theorem wellPlaced_tree {files : List FoundFile} (h : AllGrammatical files) :
    WellPlaced (tree files) := by
  have hforest : Fit .namespace (forest files) := by
    intro d hd
    obtain ⟨f, hf, hd⟩ := List.mem_flatMap.mp hd
    exact fit_elim (fun ds hds => fit_nested (fit_found? hds (h f hf)) (segments f.names)) d hd
  rw [tree_eq]
  exact wellPlaced_node.mpr (fit_mergeAll [] (forest files) (fit_nil .namespace) hforest)

/-- In a loaded tree everything stands below a kind that may hold it, so the query for everything
reports each declaration once, in pre-order, except what is special or inside something special. -/
theorem tree_within_reach {files : List FoundFile} (h : AllGrammatical files) :
    WellPlaced (tree files).close ∧
      ∃ found : List Occurrence,
        (found.Pairwise fun o p => o.place < p.place) ∧
        (∀ o, o ∈ found ↔ o.Below (tree files).close ∧ ∀ d ∈ o.path, d.isSpecial = false) ∧
        Query.all.run (tree files).close = found.map Occurrence.entity := by
  have hplaced : WellPlaced (tree files).close := (wellPlaced_tree h).closeIn _ _
  refine ⟨hplaced, (tree files).close.occurrences.filter fun o => ∀ d ∈ o.path,
    d.isSpecial = false, ?_, ?_, Query.run_all_eq hplaced⟩
  · exact (pairwise_occurrences _).filter _
  · intro o
    rw [List.mem_filter, mem_occurrences, decide_eq_true_iff]

/-! ## A struct with a constant -/

def pointText : String := "struct Point \x7b x: i32 \x7d"

def implText : String := "impl Point \x7b const ORIGIN: i32 = 0; \x7d"

/-- A struct with a field, and a block that gives it a constant. -/
def pointTree : ParseTree :=
  .node ⟨"source_file", true, "", pointText ++ "\n" ++ implText⟩ [
    .node ⟨"struct_item", true, "", pointText⟩ [
      token "struct" false "" "struct",
      token "type_identifier" true "name" "Point",
      .node ⟨"field_declaration_list", true, "body", "\x7b x: i32 \x7d"⟩ [
        token "\x7b" false "" "\x7b",
        .node ⟨"field_declaration", true, "", "x: i32"⟩ [
          token "field_identifier" true "name" "x",
          token ":" false "" ":",
          token "primitive_type" true "type" "i32"],
        token "\x7d" false "" "\x7d"]],
    .node ⟨"impl_item", true, "", implText⟩ [
      token "impl" false "" "impl",
      token "type_identifier" true "type" "Point",
      .node ⟨"declaration_list", true, "body", "\x7b const ORIGIN: i32 = 0; \x7d"⟩ [
        token "\x7b" false "" "\x7b",
        .node ⟨"const_item", true, "", "const ORIGIN: i32 = 0;"⟩ [
          token "const" false "" "const",
          token "identifier" true "name" "ORIGIN",
          token ":" false "" ":",
          token "primitive_type" true "type" "i32",
          token "=" false "" "=",
          token "integer_literal" true "value" "0",
          token ";" false "" ";"],
        token "\x7d" false "" "\x7d"]]]

def pointFile : FoundFile where
  names := ["lib.rs"]
  content := { bytes := (pointText ++ "\n" ++ implText).toUTF8, tree := some pointTree }

/-- What is read from the file. -/
def point : Declaration :=
  .node { kind := .struct, name := "Point", visibility := .private } [
    (ofKind .field "x").withVisibility .private,
    (ofKind .field "ORIGIN").withVisibility .private]

theorem found?_pointFile : found? pointFile = some [point] := by
  have htext : pointFile.content.text? = some (pointText ++ "\n" ++ implText) :=
    fromUTF8?_toUTF8 _
  have hread : Rust.declarations pointTree = [point] := by cbv
  have hextension : Path.extension? "lib.rs" = some "rs" := by decide
  rw [found?, declarations, htext]
  simp [pointFile, hextension, Language.ofExtension?, Language.declarations, hread,
    Except.toOption]

theorem tree_pointFile : tree [pointFile] = .global [point] := by
  have hsegments : segments pointFile.names = [] := by decide
  rw [tree_eq, forest, List.flatMap_singleton, found?_pointFile, Option.elim_some, hsegments]
  rfl

theorem allGrammatical_pointFile : AllGrammatical [pointFile] := by
  intro f hf _ t ht
  obtain rfl := List.mem_singleton.mp hf
  cases ht
  simp [pointTree, Rust.grammatical_node, token, Rust.fieldKinds, ParseTree.field]

theorem pointFile_within_reach :
    AllGrammatical [pointFile] ∧ WellPlaced (global [point]).close ∧
      ∃ found : List Occurrence,
        (found.Pairwise fun o p => o.place < p.place) ∧
        (∀ o, o ∈ found ↔ o.Below (global [point]).close ∧ ∀ d ∈ o.path, d.isSpecial = false) ∧
        Query.all.run (global [point]).close = found.map Occurrence.entity := by
  refine ⟨allGrammatical_pointFile, ?_⟩
  rw [← tree_pointFile]
  exact tree_within_reach allGrammatical_pointFile

end Source

end DeclTree

import DeclTree.Proofs.Source.RustVisibility

/-!
# Bounds of Rust type parameters

Bounds on a type parameter are written at the parameter, in the predicates of `where` clauses, or
both. Which of the places it is does not matter: a parameter has the bounds written at it and then
those of the predicates on its name, in the order of the text. Bounds can be moved from a parameter
to a predicate on it that comes before the others, and a predicate can be split, and what is read
stays the same.

Predicates go to the first parameter of their name, so all of this needs parameters that have
distinct names. It is said of every declaration that is read from a node; in a file these are all
but modules and parameters.
-/

namespace DeclTree.Rust

open ParseTree

/-! ## Bounds as they are written -/

/-- The nodes in a list of bounds that stand for types. Lifetimes and removed bounds stand for none,
and a higher-ranked bound stands for the type inside it. -/
def boundNodes (bounds : ParseTree) : List ParseTree :=
  (bounds.namedChildren.filter fun b =>
    b.kind ≠ "lifetime" ∧ b.kind ≠ "removed_trait_bound").filterMap fun b =>
      if b.kind = "higher_ranked_trait_bound" then b.child? "type" else some b

/-- The bounds that a parameter or predicate has itself. -/
def ownBounds (t : ParseTree) : List ParseTree := (t.child? "bounds").elim [] boundNodes

/-- An entry of a parameter list declares a type parameter of a name with bounds of its own. -/
inductive Declares : ParseTree → String → List ParseTree → Prop
  | bare {e : ParseTree} : e.kind = "type_identifier" → Declares e e.text []
  | constrained {e : ParseTree} {name : String} : e.kind = "constrained_type_parameter" →
      e.childText? "left" = some name → Declares e name (ownBounds e)
  | named {e : ParseTree} {name : String} : e.kind = "type_parameter" →
      e.childText? "name" = some name → Declares e name (ownBounds e)
  | defaulted {e inner : ParseTree} {name : String} {bounds : List ParseTree} :
      e.kind = "optional_type_parameter" → e.child? "name" = some inner →
      Declares inner name bounds → Declares e name bounds

/-- The entries of the parameter list of an item. -/
def entries (t : ParseTree) : List ParseTree := (t.child? "type_parameters").elim [] namedChildren

/-- No two type parameters of an item have the same name. -/
def DistinctlyNamed (t : ParseTree) : Prop :=
  (entries t).Pairwise fun e f =>
    ∀ name bounds others, Declares e name bounds → ¬Declares f name others

/-- The bounds on a name in predicates. -/
def boundsAmong (predicates : List ParseTree) (name : String) : List ParseTree :=
  (predicates.filter fun p => p.childText? "left" = some name).flatMap ownBounds

/-- The bounds on a name in the `where` clauses of an item. -/
def boundsOn (t : ParseTree) (name : String) : List ParseTree := boundsAmong (predicates t) name

theorem boundTypes_eq (bounds : ParseTree) :
    boundTypes bounds = (boundNodes bounds).filterMap typeName? := by
  rw [boundTypes, boundNodes, List.filterMap_filter, List.filterMap_filterMap]
  apply List.filterMap_congr
  intro b _
  split <;> simp_all

theorem elim_boundTypes (t : ParseTree) :
    (t.child? "bounds").elim [] boundTypes = (ownBounds t).filterMap typeName? := by
  unfold ownBounds
  cases t.child? "bounds" with
  | none => rfl
  | some bounds => exact boundTypes_eq bounds

theorem boundedBy_eq_some_iff {field name : String} {t : ParseTree} {types : List TypeName} :
    boundedBy field t = some ⟨name, types⟩ ↔
      t.childText? field = some name ∧ types = (ownBounds t).filterMap typeName? := by
  rw [boundedBy, elim_boundTypes]
  cases t.childText? field with
  | none => simp
  | some found => simp [eq_comm]

theorem Declares.read_eq {e : ParseTree} {name : String} {bounds : List ParseTree}
    (h : Declares e name bounds) : bounded? e = some ⟨name, bounds.filterMap typeName?⟩ := by
  induction h with
  | bare hkind => simp [bounded?_eq, hkind]
  | constrained hkind hname => simp [bounded?_eq, hkind, boundedBy_eq_some_iff, hname]
  | named hkind hname => simp [bounded?_eq, hkind, boundedBy_eq_some_iff, hname]
  | @defaulted e inner name bounds hkind hinner _ ih => simp [bounded?_eq e, hkind, hinner, ih]

theorem exists_declares_of_bounded? {e : ParseTree} {q : Bounded} (h : bounded? e = some q) :
    ∃ bounds, Declares e q.name bounds ∧ q.bounds = bounds.filterMap typeName? := by
  induction e using ParseTree.induction with
  | node label children ih =>
    obtain ⟨name, types⟩ := q
    rw [bounded?_eq] at h
    split at h
    · rename_i hkind
      cases h
      exact ⟨[], .bare hkind, rfl⟩
    · rename_i hkind
      obtain ⟨hname, rfl⟩ := boundedBy_eq_some_iff.mp h
      exact ⟨_, .constrained hkind hname, rfl⟩
    · rename_i hkind
      obtain ⟨hname, rfl⟩ := boundedBy_eq_some_iff.mp h
      exact ⟨_, .named hkind hname, rfl⟩
    · rename_i hkind
      cases hinner : (node label children).child? "name" with
      | none => simp [hinner] at h
      | some inner =>
        rw [hinner] at h
        obtain ⟨bounds, hdeclares, htypes⟩ := ih inner (List.mem_of_find?_eq_some hinner) h
        exact ⟨bounds, .defaulted hkind hinner hdeclares, htypes⟩
    · cases h

theorem isSome_bounded?_iff {e : ParseTree} :
    (bounded? e).isSome = true ↔ ∃ name bounds, Declares e name bounds := by
  constructor
  · intro h
    obtain ⟨q, hq⟩ := Option.isSome_iff_exists.mp h
    obtain ⟨bounds, hdeclares, -⟩ := exists_declares_of_bounded? hq
    exact ⟨q.name, bounds, hdeclares⟩
  · rintro ⟨name, bounds, h⟩
    rw [h.read_eq, Option.isSome_some]

instance (e : ParseTree) : Decidable (∃ name bounds, Declares e name bounds) :=
  decidable_of_iff _ isSome_bounded?_iff

/-- The entries that declare type parameters; the others declare lifetimes and constants. -/
def typeEntries (t : ParseTree) : List ParseTree :=
  (entries t).filter fun e => ∃ name bounds, Declares e name bounds

/-- The type parameters of an item with the bounds in its parameter list. -/
def listedParameters (t : ParseTree) : List Bounded := (entries t).filterMap bounded?

theorem distinctlyNamed_iff {t : ParseTree} :
    DistinctlyNamed t ↔ ((listedParameters t).map Bounded.name).Nodup := by
  rw [DistinctlyNamed, List.Nodup, List.pairwise_map, listedParameters, List.pairwise_filterMap]
  constructor
  · refine fun h => h.imp fun hef q hq r hr hname => ?_
    obtain ⟨bounds, hdeclares, -⟩ := exists_declares_of_bounded? hq
    obtain ⟨others, hdeclares', -⟩ := exists_declares_of_bounded? hr
    exact hef _ _ _ hdeclares (hname ▸ hdeclares')
  · intro h
    refine h.imp fun hef name bounds others he hf => ?_
    exact hef _ he.read_eq _ hf.read_eq rfl

/-! ## Gathering -/

/-- A parameter with more bounds behind its own. -/
def Bounded.add (nodes : List ParseTree) (q : Bounded) : Bounded :=
  { q with bounds := q.bounds ++ nodes.filterMap typeName? }

@[simp] theorem Bounded.name_add (nodes : List ParseTree) (q : Bounded) :
    (q.add nodes).name = q.name := rfl

theorem Bounded.add_nil (q : Bounded) : q.add [] = q := by simp [add]

theorem Bounded.add_add (nodes more : List ParseTree) (q : Bounded) :
    (q.add nodes).add more = q.add (nodes ++ more) := by
  simp [add]

theorem boundsAmong_append (front rest : List ParseTree) (name : String) :
    boundsAmong (front ++ rest) name = boundsAmong front name ++ boundsAmong rest name := by
  rw [boundsAmong, List.filter_append, List.flatMap_append]
  rfl

/-- A predicate adds its bounds to all parameters of its name. -/
theorem addPredicate_eq_map {params : List Bounded} (h : (params.map Bounded.name).Nodup)
    (predicate : ParseTree) :
    addPredicate params predicate =
      params.map fun q => q.add (boundsAmong [predicate] q.name) := by
  rw [addPredicate]
  split
  · rename_i left bounds hleft hbounds
    rw [changeFirst_eq_map]
    · apply List.map_congr_left
      intro q _
      by_cases hname : q.name = left
      · simp [boundsAmong, hleft, hname, ownBounds, hbounds, Bounded.add, boundTypes_eq]
      · simp [boundsAmong, hleft, hname, Ne.symm hname, Bounded.add]
    · refine (List.pairwise_map.mp h).imp fun hne ha => ?_
      rw [beq_iff_eq] at ha
      rw [beq_eq_false_iff_ne]
      exact fun hb => hne (ha.trans hb.symm)
  · rename_i hnone
    symm
    rw [List.map_congr_left (g := id) fun q _ => ?_, List.map_id]
    have hbounds : boundsAmong [predicate] q.name = [] := by
      simp only [boundsAmong, List.filter_cons, List.filter_nil]
      split
      · rename_i hleft
        rw [decide_eq_true_iff] at hleft
        cases hchild : predicate.child? "bounds" with
        | none => simp [ownBounds, hchild]
        | some bounds => exact absurd hchild (hnone _ _ hleft)
      · rfl
    rw [hbounds, Bounded.add_nil, id]

/-- All predicates together add to every parameter the bounds on its name. -/
theorem foldl_addPredicate_eq_map {params : List Bounded} (h : (params.map Bounded.name).Nodup)
    (ps : List ParseTree) :
    ps.foldl addPredicate params = params.map fun q => q.add (boundsAmong ps q.name) := by
  induction ps generalizing params with
  | nil => simp [boundsAmong, Bounded.add_nil]
  | cons p ps ih =>
    have hstep := addPredicate_eq_map h p
    have hnames : (addPredicate params p).map Bounded.name = params.map Bounded.name := by
      rw [hstep, List.map_map]
      rfl
    rw [List.foldl_cons, ih (hnames ▸ h), hstep, List.map_map]
    apply List.map_congr_left
    intro q _
    have happend := boundsAmong_append [p] ps q.name
    rw [List.singleton_append] at happend
    rw [Function.comp_apply, Bounded.name_add, Bounded.add_add, happend]

theorem typeParameters_eq_map {t : ParseTree} (h : DistinctlyNamed t) :
    typeParameters t = (listedParameters t).map fun q =>
      .typeParameter q.name (constraintsOf (q.add (boundsOn t q.name)).bounds) := by
  have hfold := foldl_addPredicate_eq_map (distinctlyNamed_iff.mp h) (predicates t)
  have hparams : ((t.child? "type_parameters").elim [] fun list =>
      list.namedChildren.filterMap bounded?) = listedParameters t := by
    unfold listedParameters entries
    cases t.child? "type_parameters" <;> rfl
  rw [typeParameters, hparams, hfold, List.map_map]
  rfl

/-! ## Items -/

/-- A declaration is read from a node: it is an item other than a module, or a member, field or
variant in the body of one, and may have received what blocks hold. -/
inductive ReadFrom (t : ParseTree) : Declaration → Prop
  | item {before : List ParseTree} {d : Declaration} : plainItem? before t = some d → ReadFrom t d
  | method {before : List ParseTree} {shown : Accessibility} {d : Declaration} :
      method? before shown t = some d → ReadFrom t d
  | field {before : List ParseTree} {shown : Accessibility} {d : Declaration} :
      field? before shown t = some d → ReadFrom t d
  | extended {d : Declaration} (block : ParseTree) : ReadFrom t d → ReadFrom t (extend block d)

/-- A declaration and all in it are read from nodes, apart from modules and parameters. -/
inductive Traced : Declaration → Prop
  | read {t : ParseTree} {d : Declaration} (own : ReadFrom t d)
      (inside : ∀ c ∈ d.children, Traced c) : Traced d
  | parameter {d : Declaration} : IsParameter d → Traced d
  | space (name : String) {ds : List Declaration} (inside : ∀ c ∈ ds, Traced c) :
      Traced (.space name ds)

/-- The declarations are what an item may hold behind its type parameters. -/
def AllInner (ds : List Declaration) : Prop := ∀ d ∈ ds, d.kind ≠ .typeParameter ∧ Traced d

theorem allInner_nil : AllInner [] := by simp [AllInner]

theorem allInner_filterMap {α : Type} {f : α → Option Declaration} {as : List α}
    (h : ∀ a d, f a = some d → d.kind ≠ .typeParameter ∧ Traced d) : AllInner (as.filterMap f) := by
  intro d hd
  obtain ⟨a, -, ha⟩ := List.mem_filterMap.mp hd
  exact h a d ha

theorem allInner_elim {α : Type} {f : α → List Declaration} (o : Option α)
    (h : ∀ a, AllInner (f a)) : AllInner (o.elim [] f) := by
  cases o with
  | none => exact allInner_nil
  | some a => exact h a

theorem AllInner.typeParameters_append {ds : List Declaration} (h : AllInner ds)
    (header : Header) (children : List Declaration) :
    (Declaration.node header (children ++ ds)).typeParameters =
      (Declaration.node header children).typeParameters := by
  have hnone : (ds.filter fun c => c.kind == .typeParameter) = [] := by
    rw [List.filter_eq_nil_iff]
    intro d hd
    simpa using (h d hd).1
  simp [Declaration.typeParameters, hnone]

namespace Declared

variable {kind : Kind} {shown : Accessibility} {t : ParseTree} {inside : List Declaration}
  {d : Declaration}

theorem typeParameters_eq (h : Declared kind shown t inside d) (hinside : AllInner inside) :
    d.typeParameters = typeParameters t := by
  obtain ⟨header, children⟩ := d
  obtain rfl : children = typeParameters t ++ inside := h.children
  rw [hinside.typeParameters_append, Declaration.typeParameters, Declaration.children_node,
    List.filter_eq_self]
  intro p hp
  obtain ⟨q, -, rfl⟩ := List.mem_map.mp hp
  rfl

theorem traced (h : Declared kind shown t inside d) (hinside : AllInner inside)
    (hread : ReadFrom t d) : Traced d := by
  refine .read hread fun c hc => ?_
  rw [h.children] at hc
  rcases List.mem_append.mp hc with hc | hc
  · exact .parameter (isParameter_of_mem_typeParameters hc)
  · exact (hinside c hc).2

end Declared

section Contents

variable {before : List ParseTree} {shown : Accessibility} {t : ParseTree} {d : Declaration}

theorem inner_field? (h : field? before shown t = some d) :
    d.kind ≠ .typeParameter ∧ Traced d := by
  have hdeclared := Declared.of_field? h
  exact ⟨by simp [hdeclared.kind_eq], hdeclared.traced allInner_nil (.field h)⟩

theorem allInner_parameters (t : ParseTree) : AllInner (parameters t) := by
  intro d hd
  refine ⟨?_, .parameter (isParameter_of_mem_parameters hd)⟩
  unfold parameters at hd
  cases hlist : t.child? "parameters" with
  | none => simp [hlist] at hd
  | some list =>
    rw [hlist] at hd
    obtain ⟨p, -, hp⟩ := List.mem_filterMap.mp hd
    unfold parameter? at hp
    split at hp
    · obtain ⟨pattern, -, rfl⟩ := Option.map_eq_some_iff.mp hp
      simp [Declaration.ofKind]
    · cases hp

theorem inner_method? (h : method? before shown t = some d) :
    d.kind ≠ .typeParameter ∧ Traced d := by
  have hdeclared := Declared.of_method? h
  exact ⟨by simp [hdeclared.kind_eq], hdeclared.traced (allInner_parameters t) (.method h)⟩

theorem allInner_members (imposed : Option Accessibility) (body : ParseTree) :
    AllInner (members imposed body) := by
  refine allInner_filterMap ?_
  rintro ⟨before, t⟩ d h
  dsimp only at h
  split at h
  · exact inner_method? h
  · exact inner_method? h
  · exact inner_field? h
  · cases h

theorem allInner_structFields (t : ParseTree) : AllInner (structFields t) := by
  unfold structFields
  split
  · exact allInner_nil
  · split
    · refine allInner_filterMap ?_
      rintro ⟨before, f⟩ d h
      dsimp only at h
      split at h
      · exact inner_field? h
      · cases h
    · exact allInner_nil

theorem allInner_variants (t : ParseTree) : AllInner (variants t) := by
  refine allInner_elim _ fun body => allInner_filterMap ?_
  rintro ⟨before, v⟩ d h
  dsimp only at h
  split at h
  · exact inner_field? h
  · cases h

theorem allInner_blockMembers (block : ParseTree) : AllInner (blockMembers block) :=
  allInner_elim _ (allInner_members _)

/-- An item declares its type parameters and then what may stand behind them. -/
theorem exists_declared_of_plainItem? (h : plainItem? before t = some d) :
    ∃ kind shown inside, Declared kind shown t inside d ∧ AllInner inside := by
  unfold plainItem? at h
  split at h
  · obtain ⟨e, he, rfl⟩ := Option.map_eq_some_iff.mp h
    exact ⟨_, _, _, (Declared.of_declare? he).addChildren _, allInner_structFields t⟩
  · obtain ⟨e, he, rfl⟩ := Option.map_eq_some_iff.mp h
    exact ⟨_, _, _, (Declared.of_declare? he).addChildren _, allInner_variants t⟩
  · obtain ⟨e, he, rfl⟩ := Option.map_eq_some_iff.mp h
    exact ⟨_, _, _, ((Declared.of_declare? he).addInterfaces _).addChildren _,
      allInner_elim _ (allInner_members (some .public))⟩
  · exact ⟨_, _, _, Declared.of_method? h, allInner_parameters t⟩
  · exact ⟨_, _, _, Declared.of_field? h, allInner_nil⟩
  · exact ⟨_, _, _, Declared.of_field? h, allInner_nil⟩
  · cases h

end Contents

theorem typeParameters_extend (block : ParseTree) (d : Declaration) :
    (extend block d).typeParameters = d.typeParameters := by
  obtain ⟨header, children⟩ := d
  exact (allInner_blockMembers block).typeParameters_append _ children

/-- The type parameters of a declaration are those read at its node. -/
theorem ReadFrom.typeParameters_eq {t : ParseTree} {d : Declaration} (h : ReadFrom t d) :
    d.typeParameters = typeParameters t := by
  induction h with
  | item h =>
    obtain ⟨_, _, _, hdeclared, hinside⟩ := exists_declared_of_plainItem? h
    exact hdeclared.typeParameters_eq hinside
  | method h => exact (Declared.of_method? h).typeParameters_eq (allInner_parameters t)
  | field h => exact (Declared.of_field? h).typeParameters_eq allInner_nil
  | extended block _ ih => rw [typeParameters_extend, ih]

/-- A block goes to a type, which is read from a node and is so with what it receives. -/
theorem Traced.extend {d : Declaration} (h : Traced d) (htype : d.kind.isNamedType = true)
    (block : ParseTree) : Traced (extend block d) := by
  cases h with
  | read own inside =>
    refine .read (.extended block own) fun c hc => ?_
    obtain ⟨header, children⟩ := d
    rcases List.mem_append.mp hc with hc | hc
    · exact inside c hc
    · exact (allInner_blockMembers block c hc).2
  | parameter hparameter =>
    rcases hparameter.kind with hkind | hkind <;> rw [hkind] at htype <;> cases htype
  | space name inside => cases htype

theorem traced_items {siblings : List ParseTree} (h : ∀ d ∈ itemsFrom [] siblings, Traced d) :
    ∀ d ∈ items siblings, Traced d := by
  rw [items]
  generalize itemsFrom [] siblings = ds at h
  induction blocks siblings generalizing ds with
  | nil => exact h
  | cons block blocks ih =>
    refine ih (attach ds block) fun d hd => ?_
    unfold attach at hd
    split at hd
    · exact h d hd
    · rcases mem_changeLast hd with hd | ⟨e, he, htest, rfl⟩
      · exact h d hd
      · exact (h e he).extend (Bool.and_eq_true_iff.mp htest).1 block

/-- Every declaration of a file is read from a node, apart from modules and parameters. -/
theorem traced_declarations (file : ParseTree) : ∀ d ∈ declarations file, Traced d := by
  suffices h : (∀ before, ∀ d ∈ item before file, Traced d) ∧ ∀ d ∈ items file.children, Traced d
    from h.2
  induction file using ParseTree.induction with
  | node label children ih =>
    constructor
    · intro before d hd
      rw [item] at hd
      split at hd
      · split at hd
        · rename_i ds name hbody hname
          obtain ⟨body, hmem, rfl⟩ := exists_of_bodyItems? hbody
          obtain rfl := List.mem_singleton.mp hd
          exact .space name (ih body hmem).2
        · cases hd
      · have hitem := Option.mem_toList.mp hd
        obtain ⟨_, _, _, hdeclared, hinside⟩ := exists_declared_of_plainItem? hitem
        exact hdeclared.traced hinside (.item hitem)
    · refine traced_items fun d hd => ?_
      obtain ⟨t, ht, before, hd⟩ := exists_of_mem_itemsFrom hd
      exact (ih t ht).1 before d hd

/-! ## The places of bounds -/

/-- One of the types is the trait of a name without arguments. -/
def Demands (types : List TypeName) (name : String) : Prop :=
  ∃ type ∈ types, type.name = name ∧ type.args = []

/-- A type parameter is the one declared by an entry of an item. It has the bounds that the entry
has and then those of the predicates on its name, as far as they can be read as types, and it
demands what `Copy` and `Default` among them stand for. -/
inductive Gathers (t e : ParseTree) : Declaration → Prop
  | mk {name : String} {own : List ParseTree} {constraints : Constraints}
      (declares : Declares e name own)
      (types : constraints.types = (own ++ boundsOn t name).filterMap typeName?)
      (value : constraints.valueType = true ↔ Demands constraints.types "Copy")
      (new : constraints.parameterlessConstructor = true ↔ Demands constraints.types "Default")
      (reference : constraints.referenceType = false) :
      Gathers t e (.typeParameter name constraints)

/-- Two items have type parameters of the same names with the same bounds in the same order,
wherever each of the bounds is written. -/
def SameBounds (t u : ParseTree) : Prop :=
  List.Forall₂ (fun e f => ∃ name own others, Declares e name own ∧ Declares f name others ∧
    own ++ boundsOn t name = others ++ boundsOn u name) (typeEntries t) (typeEntries u)

/-- The second item is the first with bounds written elsewhere. -/
inductive Respelled (t u : ParseTree) : Prop
  /-- The bounds at a parameter stand in a predicate that comes before all others on its name. -/
  | moved {front rest first others own : List ParseTree} {e f p : ParseTree} {name : String}
      (entries_left : entries t = front ++ e :: rest)
      (entries_right : entries u = front ++ f :: rest)
      (declares : Declares e name own) (bare : Declares f name [])
      (predicates_left : predicates t = first ++ others)
      (predicates_right : predicates u = first ++ p :: others)
      (leading : ∀ q ∈ first, q.childText? "left" ≠ some name)
      (left : p.childText? "left" = some name) (bounds : ownBounds p = own)
  /-- A predicate is divided into several on the same name. -/
  | split {first parts others : List ParseTree} {p : ParseTree}
      (entries_eq : entries u = entries t)
      (predicates_left : predicates t = first ++ p :: others)
      (predicates_right : predicates u = first ++ parts ++ others)
      (lefts : ∀ q ∈ parts, q.childText? "left" = p.childText? "left")
      (bounds : parts.flatMap ownBounds = ownBounds p)

theorem any_eq_true_iff_demands {types : List TypeName} {name : String} :
    (types.any fun b => b.name == name && b.arity == 0) = true ↔ Demands types name := by
  simp [Demands, TypeName.arity]

theorem gathers_typeParameter {t e : ParseTree} {q : Bounded} (h : bounded? e = some q) :
    Gathers t e
      (.typeParameter q.name (constraintsOf (q.add (boundsOn t q.name)).bounds)) := by
  obtain ⟨own, hdeclares, hbounds⟩ := exists_declares_of_bounded? h
  refine .mk hdeclares ?_ any_eq_true_iff_demands any_eq_true_iff_demands rfl
  rw [List.filterMap_append, ← hbounds]
  rfl

theorem listedParameters_eq (t : ParseTree) :
    listedParameters t = (typeEntries t).filterMap bounded? := by
  rw [listedParameters, typeEntries, List.filterMap_filter]
  apply List.filterMap_congr
  intro e _
  cases hread : bounded? e with
  | none => simp
  | some q =>
    have hsome : ∃ name bounds, Declares e name bounds := by
      rw [← isSome_bounded?_iff, hread, Option.isSome_some]
    simp [hsome]

/-- The entries that declare type parameters, each beside what is read of it. -/
theorem forall₂_listedParameters (t : ParseTree) :
    List.Forall₂ (fun e q => bounded? e = some q) (typeEntries t) (listedParameters t) := by
  rw [listedParameters_eq]
  refine forall₂_filterMap fun e he => ?_
  obtain ⟨-, hdeclares⟩ := List.mem_filter.mp he
  exact isSome_bounded?_iff.mpr (of_decide_eq_true hdeclares)

theorem forall₂_gathers {t : ParseTree} (h : DistinctlyNamed t) :
    List.Forall₂ (Gathers t) (typeEntries t) (typeParameters t) := by
  rw [typeParameters_eq_map h, List.forall₂_map_right_iff]
  exact (forall₂_listedParameters t).imp fun e q => gathers_typeParameter

theorem SameBounds.forall₂_listedParameters {t u : ParseTree} (h : SameBounds t u) :
    List.Forall₂ (fun q r => q.name = r.name ∧
        (q.add (boundsOn t q.name)).bounds = (r.add (boundsOn u r.name)).bounds)
      (listedParameters t) (listedParameters u) := by
  rw [listedParameters_eq, listedParameters_eq]
  unfold SameBounds at h
  generalize typeEntries t = es, typeEntries u = fs at h ⊢
  induction h with
  | nil => exact .nil
  | cons hef _ ih =>
    obtain ⟨name, own, others, he, hf, hbounds⟩ := hef
    rw [List.filterMap_cons_some he.read_eq, List.filterMap_cons_some hf.read_eq]
    refine .cons ⟨rfl, ?_⟩ ih
    have htypes := congrArg (List.filterMap typeName?) hbounds
    rwa [List.filterMap_append, List.filterMap_append] at htypes

/-- What is read of the parameters depends on the bounds alone and not on their places. -/
theorem SameBounds.typeParameters_eq {t u : ParseTree} (h : SameBounds t u)
    (hdistinct : DistinctlyNamed t) : typeParameters u = typeParameters t := by
  have hlisted := h.forall₂_listedParameters
  have hnames : (listedParameters t).map Bounded.name = (listedParameters u).map Bounded.name :=
    map_eq_map_of_forall₂ (hlisted.imp fun _ _ hqr => hqr.1)
  have hdistinct' : DistinctlyNamed u := by
    rw [distinctlyNamed_iff, ← hnames]
    exact distinctlyNamed_iff.mp hdistinct
  rw [typeParameters_eq_map hdistinct, typeParameters_eq_map hdistinct']
  symm
  refine map_eq_map_of_forall₂ (hlisted.imp fun q r hqr => ?_)
  obtain ⟨hname, hbounds⟩ := hqr
  rw [hbounds, hname]

theorem boundsAmong_of_ne {ps : List ParseTree} {name : String}
    (h : ∀ p ∈ ps, p.childText? "left" ≠ some name) : boundsAmong ps name = [] := by
  have hnone : (ps.filter fun p => p.childText? "left" = some name) = [] := by
    simpa [List.filter_eq_nil_iff] using h
  rw [boundsAmong, hnone, List.flatMap_nil]

theorem boundsAmong_of_eq {ps : List ParseTree} {name : String}
    (h : ∀ p ∈ ps, p.childText? "left" = some name) :
    boundsAmong ps name = ps.flatMap ownBounds := by
  have hall : (ps.filter fun p => p.childText? "left" = some name) = ps := by
    simpa [List.filter_eq_self] using h
  rw [boundsAmong, hall]

theorem sameBounds_of_boundsOn_eq {t u : ParseTree} {es : List ParseTree}
    (h : ∀ e ∈ es, ∀ name own, Declares e name own → boundsOn t name = boundsOn u name) :
    List.Forall₂ (fun e f => ∃ name own others, Declares e name own ∧ Declares f name others ∧
        own ++ boundsOn t name = others ++ boundsOn u name)
      (es.filter fun e => ∃ name bounds, Declares e name bounds)
      (es.filter fun e => ∃ name bounds, Declares e name bounds) := by
  rw [List.forall₂_same]
  intro e he
  obtain ⟨hmem, hdeclares⟩ := List.mem_filter.mp he
  obtain ⟨name, own, hown⟩ := of_decide_eq_true hdeclares
  exact ⟨name, own, own, hown, hown, by rw [h e hmem name own hown]⟩

theorem Respelled.sameBounds {t u : ParseTree} (h : Respelled t u) (hdistinct : DistinctlyNamed t) :
    SameBounds t u := by
  cases h with
  | @moved front rest first others own e f p name hleft hright hdeclares hbare hpt hpu hleading
      hname hbounds =>
    rw [DistinctlyNamed, hleft, List.pairwise_append, List.pairwise_cons] at hdistinct
    obtain ⟨-, ⟨hrest, -⟩, hfront⟩ := hdistinct
    have hother : ∀ other ≠ name, boundsOn t other = boundsOn u other := by
      intro other hne
      have hp : boundsAmong [p] other = [] := boundsAmong_of_ne (by simp [hname, hne.symm])
      rw [boundsOn, boundsOn, hpt, hpu, ← List.singleton_append, boundsAmong_append,
        boundsAmong_append, boundsAmong_append, hp, List.nil_append]
    have hsame : own ++ boundsOn t name = [] ++ boundsOn u name := by
      have hfirst : boundsAmong first name = [] := boundsAmong_of_ne hleading
      have hp : boundsAmong [p] name = own := by
        rw [boundsAmong_of_eq (by simp [hname]), List.flatMap_singleton, hbounds]
      rw [boundsOn, boundsOn, hpt, hpu, ← List.singleton_append, boundsAmong_append,
        boundsAmong_append, boundsAmong_append, hfirst, hp, List.nil_append, List.nil_append,
        List.nil_append]
    rw [SameBounds, typeEntries, typeEntries, hleft, hright, List.filter_append,
      List.filter_append, List.filter_cons_of_pos (by simpa using ⟨_, _, hdeclares⟩),
      List.filter_cons_of_pos (by simpa using ⟨_, _, hbare⟩)]
    refine List.rel_append ?_ (.cons ⟨name, own, [], hdeclares, hbare, hsame⟩ ?_)
    · refine sameBounds_of_boundsOn_eq fun g hg other own' hg' => hother other ?_
      rintro rfl
      exact hfront g hg e List.mem_cons_self _ _ _ hg' hdeclares
    · refine sameBounds_of_boundsOn_eq fun g hg other own' hg' => hother other ?_
      rintro rfl
      exact hrest g hg _ _ _ hdeclares hg'
  | @split first parts others p hentries hpt hpu hlefts hbounds =>
    rw [SameBounds, typeEntries, typeEntries, hentries]
    refine sameBounds_of_boundsOn_eq fun e _ name _ _ => ?_
    have hparts : boundsAmong parts name = boundsAmong [p] name := by
      by_cases hname : p.childText? "left" = some name
      · rw [boundsAmong_of_eq fun q hq => (hlefts q hq).trans hname, hbounds,
          boundsAmong_of_eq (by simp [hname]), List.flatMap_singleton]
      · rw [boundsAmong_of_ne fun q hq => (hlefts q hq).trans_ne hname,
          boundsAmong_of_ne (by simp [hname])]
    rw [boundsOn, boundsOn, hpt, hpu, ← List.singleton_append, boundsAmong_append,
      boundsAmong_append, boundsAmong_append, boundsAmong_append, hparts, List.append_assoc]

/-- A declaration with distinctly named type parameters has one for each entry that declares one, in
their order and with the bounds on it from the list and from all `where` clauses. Only the bounds
matter and not their places: an item with the same bounds elsewhere has the same type parameters,
in particular one that has bounds moved to a leading predicate or a predicate split. -/
theorem typeParameters_gather_bounds {t : ParseTree} {d : Declaration} (hread : ReadFrom t d)
    (hdistinct : DistinctlyNamed t) :
    List.Forall₂ (Gathers t) (typeEntries t) d.typeParameters ∧
      (∀ u e, ReadFrom u e → SameBounds t u → e.typeParameters = d.typeParameters) ∧
      ∀ u, Respelled t u → SameBounds t u := by
  refine ⟨?_, ?_, fun u h => h.sameBounds hdistinct⟩
  · rw [hread.typeParameters_eq]
    exact forall₂_gathers hdistinct
  · intro u e hread' h
    rw [hread.typeParameters_eq, hread'.typeParameters_eq]
    exact h.typeParameters_eq hdistinct

/-! ## A struct with bounds in both places -/

open Source (token)

def boundNode (name : String) : ParseTree :=
  .node ⟨"trait_bounds", true, "bounds", ": " ++ name⟩ [
    token ":" false "" ":",
    token "type_identifier" true "" name]

def predicateOn (left name : String) : ParseTree :=
  .node ⟨"where_predicate", true, "", left ++ ": " ++ name⟩ [
    token "type_identifier" true "left" left,
    boundNode name]

def clauseOf (predicates : List ParseTree) : ParseTree :=
  .node ⟨"where_clause", true, "", "where " ++ ", ".intercalate (predicates.map text)⟩
    (token "where" false "" "where" :: predicates.intersperse (token "," false "" ","))

/-- The parameter `T: Clone`. -/
def boundedItem : ParseTree :=
  .node ⟨"type_parameter", true, "", "T: Clone"⟩ [
    token "type_identifier" true "name" "T",
    boundNode "Clone"]

/-- The parameter `T`. -/
def bareItem : ParseTree :=
  .node ⟨"type_parameter", true, "", "T"⟩ [token "type_identifier" true "name" "T"]

def lifetimeItem : ParseTree := token "lifetime_parameter" true "" "'a"

/-- The parameter `U = u8`. -/
def defaultedItem : ParseTree :=
  .node ⟨"type_parameter", true, "", "U = u8"⟩ [
    token "type_identifier" true "name" "U",
    token "=" false "" "=",
    token "primitive_type" true "default_type" "u8"]

/-- A struct with the parameters `'a`, the given one and `U = u8`. -/
def chestItem (parameter clause : ParseTree) : ParseTree :=
  .node ⟨"struct_item", true, "",
      "struct Chest<'a, " ++ parameter.text ++ ", U = u8> " ++ clause.text ++ ";"⟩ [
    token "struct" false "" "struct",
    token "type_identifier" true "name" "Chest",
    .node ⟨"type_parameters", true, "type_parameters", "<'a, " ++ parameter.text ++ ", U = u8>"⟩ [
      token "<" false "" "<",
      lifetimeItem,
      token "," false "" ",",
      parameter,
      token "," false "" ",",
      defaultedItem,
      token ">" false "" ">"],
    clause,
    token ";" false "" ";"]

/-- The struct `Chest<'a, T: Clone, U = u8> where U: Copy, T: Default`. -/
def listedChest : ParseTree :=
  chestItem boundedItem (clauseOf [predicateOn "U" "Copy", predicateOn "T" "Default"])

/-- The struct `Chest<'a, T, U = u8> where T: Clone, U: Copy, T: Default`. -/
def movedChest : ParseTree :=
  chestItem bareItem
    (clauseOf [predicateOn "T" "Clone", predicateOn "U" "Copy", predicateOn "T" "Default"])

/-- What is read from both. -/
def chest : Declaration :=
  .node { kind := .struct, name := "Chest", visibility := .private } [
    .typeParameter "T"
      { parameterlessConstructor := true, types := [⟨"", "Clone", []⟩, ⟨"", "Default", []⟩] },
    .typeParameter "U" { valueType := true, types := [⟨"", "Copy", []⟩] }]

theorem declares_boundedItem : Declares boundedItem "T" (ownBounds boundedItem) := .named rfl rfl

theorem listedParameters_listedChest :
    listedParameters listedChest = [⟨"T", [⟨"", "Clone", []⟩]⟩, ⟨"U", []⟩] := by
  have hentries : entries listedChest = [lifetimeItem, boundedItem, defaultedItem] := by cbv
  have hlifetime : bounded? lifetimeItem = none := by
    simp [bounded?_eq, lifetimeItem, token, ParseTree.kind]
  have hdefaulted : Declares defaultedItem "U" (ownBounds defaultedItem) := .named rfl rfl
  have hclone : (ownBounds boundedItem).filterMap typeName? = [⟨"", "Clone", []⟩] := by cbv
  have hbare : (ownBounds defaultedItem).filterMap typeName? = [] := by cbv
  simp [listedParameters, hentries, hlifetime, declares_boundedItem.read_eq, hdefaulted.read_eq,
    hclone, hbare]

theorem distinctlyNamed_listedChest : DistinctlyNamed listedChest := by
  rw [distinctlyNamed_iff, listedParameters_listedChest]
  decide

theorem plainItem?_listedChest : plainItem? [] listedChest = some chest := by
  have htypes : typeParameters listedChest = chest.children := by
    rw [typeParameters_eq_map distinctlyNamed_listedChest, listedParameters_listedChest]
    cbv
  have hstruct : plainItem? [] listedChest = struct? [] listedChest := by
    have hkind : listedChest.kind = "struct_item" := rfl
    simp [plainItem?, hkind]
  rw [hstruct, struct?, declare?, htypes]
  cbv

theorem respelled_movedChest : Respelled listedChest movedChest := by
  have hlisted : entries listedChest = [lifetimeItem] ++ boundedItem :: [defaultedItem] := by cbv
  have hmoved : entries movedChest = [lifetimeItem] ++ bareItem :: [defaultedItem] := by cbv
  have hbare : Declares bareItem "T" [] := .named rfl rfl
  have hpredicates : predicates listedChest =
      [] ++ [predicateOn "U" "Copy", predicateOn "T" "Default"] := by
    cbv
  have hpredicates' : predicates movedChest = [] ++ predicateOn "T" "Clone" ::
      [predicateOn "U" "Copy", predicateOn "T" "Default"] := by
    cbv
  exact .moved hlisted hmoved declares_boundedItem hbare hpredicates hpredicates' (by simp) rfl
    (by cbv)

/-- The struct has a bound from each place, and the one with all bounds behind `where` has the same
type parameters. -/
theorem chest_gathers_bounds :
    ReadFrom listedChest chest ∧ DistinctlyNamed listedChest ∧
      List.Forall₂ (Gathers listedChest) (typeEntries listedChest) chest.typeParameters ∧
      ∀ e, ReadFrom movedChest e → e.typeParameters = chest.typeParameters := by
  have hread : ReadFrom listedChest chest := .item plainItem?_listedChest
  obtain ⟨hgathers, hsame, hrespelled⟩ :=
    typeParameters_gather_bounds hread distinctlyNamed_listedChest
  exact ⟨hread, distinctlyNamed_listedChest, hgathers,
    fun e he => hsame _ e he (hrespelled _ respelled_movedChest)⟩

end DeclTree.Rust

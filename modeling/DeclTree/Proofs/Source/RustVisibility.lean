import DeclTree.Proofs.Lists
import DeclTree.Proofs.Source.RustBlocks
import DeclTree.Proofs.Source.Spaces

/-!
# Visibilities of Rust items

Every declaration of a file is traced to the node it is read from and to the place where this node
stands, and the two decide its visibility: variants and the members of traits are public, modules
and parameters have none, and all else is as visible as its modifier says, blanks in it not counted.

The members of an `impl` block are public if the block names a trait, with one exception: a block
whose trait cannot be read as a type counts as one that names none.
-/

namespace DeclTree.Rust

open ParseTree

/-! ## The rule -/

/-- The text of a modifier without the blanks in it. -/
def squeezed (modifier : ParseTree) : List Char :=
  modifier.text.toList.filter fun c => !Text.isBlank c

/-- What the modifier of a node says. -/
inductive Written (t : ParseTree) : Accessibility → Prop
  | unmarked : t.childOfKind? "visibility_modifier" = none → Written t .private
  | everywhere {m : ParseTree} : t.childOfKind? "visibility_modifier" = some m →
      squeezed m = "pub".toList → Written t .public
  | here {m : ParseTree} : t.childOfKind? "visibility_modifier" = some m →
      squeezed m = "pub(self)".toList → Written t .private
  | within {m : ParseTree} : t.childOfKind? "visibility_modifier" = some m →
      squeezed m ≠ "pub".toList → squeezed m ≠ "pub(self)".toList → Written t .internal

theorem written_visibility (t : ParseTree) : Written t (visibility t) := by
  unfold visibility
  split
  · rename_i hnone
    exact .unmarked hnone
  · rename_i m hm
    dsimp only
    split
    · rename_i hpub
      exact .everywhere hm hpub
    · rename_i hpub
      split
      · rename_i hself
        exact .here hm hself
      · rename_i hself
        exact .within hm hpub hself

/-- Where in a file a declaration stands. -/
inductive Place where
  /-- Among the items of a file or a module. -/
  | item (siblings : List ParseTree)
  /-- In the body of a struct. -/
  | field
  /-- In the body of an enum. -/
  | variant
  /-- In the body of a trait. -/
  | traitMember
  /-- In the body of a block. -/
  | blockMember (block : ParseTree)

/-- The rule for what is declared by a node, given which blocks count as naming a trait. -/
def Place.Shows (names : ParseTree → Bool) (t : ParseTree) : Place → Accessibility → Prop
  | .item _, a => if t.kind = "mod_item" then a = .notApplicable else Written t a
  | .field, a => Written t a
  | .variant, a => a = .public
  | .traitMember, a => a = .public
  | .blockMember block, a => if names block then a = .public else Written t a

/-- A block names a trait. -/
def namesTrait (block : ParseTree) : Bool := (block.child? "trait").isSome

/-- A block names a trait, and it can be read as a type. -/
def readsTrait (block : ParseTree) : Bool := (blockTrait? block).isSome

/-! ## Where declarations come from -/

/-- A node of one of the given kinds that has a name. -/
def declares (kinds : List String) (t : ParseTree) : Bool :=
  kinds.contains t.kind && (t.child? "name").isSome

def itemKinds : List String :=
  ["struct_item", "enum_item", "trait_item", "function_item", "const_item", "static_item"]

def memberKinds : List String := ["function_item", "function_signature_item", "const_item"]

/-- The nodes among items that declare something. A module does so only with a body. -/
def itemNodes (siblings : List ParseTree) : List ParseTree :=
  (siblings.filter named).filter fun t =>
    declares itemKinds t || (declares ["mod_item"] t && (t.child? "body").isSome)

/-- The nodes of the given kinds that declare something in a body. -/
def bodyNodes (kinds : List String) (body : Option ParseTree) : List ParseTree :=
  body.elim [] fun b => b.namedChildren.filter (declares kinds)

/-- The nodes that declare something in the node at a place, with their places. -/
def Place.inside (t : ParseTree) : Place → List (Place × ParseTree)
  | .item _ =>
    match t.kind with
    | "struct_item" =>
      (bodyNodes ["field_declaration"]
        ((t.child? "body").filter fun b => b.kind = "field_declaration_list")).map
          fun f => (.field, f)
    | "enum_item" => (bodyNodes ["enum_variant"] (t.child? "body")).map fun v => (.variant, v)
    | "trait_item" => (bodyNodes memberKinds (t.child? "body")).map fun m => (.traitMember, m)
    | "mod_item" =>
      (t.child? "body").elim [] fun body =>
        (itemNodes body.children).map fun i => (.item body.children, i)
    | _ => []
  | _ => []

/-- The blocks around a place that are for the types of a name. -/
def Place.blocksFor (name : String) : Place → List ParseTree
  | .item siblings => (blocks siblings).filter fun b => IsFor name b
  | _ => []

/-- The nodes that declare something in a block, with their place. -/
def blockNodes (block : ParseTree) : List (Place × ParseTree) :=
  (bodyNodes memberKinds (block.child? "body")).map fun m => (.blockMember block, m)

/-- The kind of what is declared by a node. -/
def kindOf (t : ParseTree) : Kind :=
  match t.kind with
  | "mod_item" => .namespace
  | "struct_item" => .struct
  | "enum_item" => .enum
  | "trait_item" => .interface
  | "function_item" => .method
  | "function_signature_item" => .method
  | _ => .field

/-- A parameter or type parameter, which holds nothing and has no visibility. -/
structure IsParameter (d : Declaration) : Prop where
  kind : d.kind = .parameter ∨ d.kind = .typeParameter
  visibility : d.header.visibility = .notApplicable
  children : d.children = []

/-- A declaration is what the node at a place declares, and follows the rule with all that is in it:
besides parameters that is what the node itself holds, and what blocks have handed over. -/
inductive Follows (names : ParseTree → Bool) : Place × ParseTree → Declaration → Prop
  | mk {place : Place} {t : ParseTree} {d : Declaration} (params own : List Declaration)
      (blocks : List ParseTree)
      (kind : d.kind = kindOf t)
      (name : t.childText? "name" = some d.name)
      (shown : place.Shows names t d.header.visibility)
      (handed : blocks = [] ∨ blocks = place.blocksFor d.name)
      (children : d.children = params ++ own)
      (parameters : ∀ p ∈ params, IsParameter p)
      (members : List.Forall₂ (Follows names) (place.inside t ++ blocks.flatMap blockNodes) own) :
      Follows names (place, t) d

/-- The declarations of a list of items follow the rule. -/
def AllFollow (names : ParseTree → Bool) (siblings : List ParseTree) (ds : List Declaration) :
    Prop :=
  List.Forall₂ (fun t d => Follows names (.item siblings, t) d) (itemNodes siblings) ds

/-- What is not a parameter in a declaration comes from a node in its own or in a block for it. -/
theorem Follows.exists_origin {names : ParseTree → Bool} {place : Place} {t : ParseTree}
    {d c : Declaration} (h : Follows names (place, t) d) (hc : c ∈ d.children)
    (hparameter : ¬IsParameter c) :
    ∃ o ∈ place.inside t ++ (place.blocksFor d.name).flatMap blockNodes, Follows names o c := by
  cases h with
  | mk params own blocks _ _ _ handed children parameters members =>
    rw [children] at hc
    rcases List.mem_append.mp hc with hc | hc
    · exact absurd (parameters c hc) hparameter
    · obtain ⟨o, ho, hfollows⟩ := exists_mem_of_forall₂ members hc
      refine ⟨o, ?_, hfollows⟩
      rcases List.mem_append.mp ho with ho | ho
      · exact List.mem_append_left _ ho
      · rcases handed with rfl | rfl
        · cases ho
        · exact List.mem_append_right _ ho

/-! ## What all items have in common -/

/-- Attributes leave a header as it is, apart from annotations and interfaces. -/
theorem annotate_frame (h : Header) (item : ParseTree) :
    ∃ annotations interfaces, annotate h item = { h with annotations, interfaces } := by
  unfold annotate
  split
  · exact ⟨_, _, rfl⟩
  · split
    · exact ⟨_, _, rfl⟩
    · dsimp only
      split
      · exact ⟨_, _, foldl_addInterface_eq _ _⟩
      · exact ⟨_, _, rfl⟩

theorem foldl_annotate_frame (items : List ParseTree) (h : Header) :
    ∃ annotations interfaces, items.foldl annotate h = { h with annotations, interfaces } := by
  induction items generalizing h with
  | nil => exact ⟨_, _, rfl⟩
  | cons item items ih =>
    obtain ⟨_, _, hitem⟩ := annotate_frame h item
    obtain ⟨annotations, interfaces, hitems⟩ := ih (annotate h item)
    exact ⟨annotations, interfaces, by rw [List.foldl_cons, hitems, hitem]⟩

/-- A declaration with the name at a node and the type parameters there, and the given ones behind
them. -/
structure Declared (kind : Kind) (shown : Accessibility) (t : ParseTree) (inside : List Declaration)
    (d : Declaration) : Prop where
  kind_eq : d.kind = kind
  name : t.childText? "name" = some d.name
  visibility : d.header.visibility = shown
  children : d.children = typeParameters t ++ inside

namespace Declared

variable {kind : Kind} {shown : Accessibility} {t : ParseTree} {inside : List Declaration}
  {d : Declaration}

theorem of_declare? {before : List ParseTree} (h : declare? kind before t = some d) :
    Declared kind (Rust.visibility t) t [] d := by
  obtain ⟨name, hname, hd⟩ := Option.bind_eq_some_iff.mp h
  cases hd
  obtain ⟨_, _, hheader⟩ := foldl_annotate_frame (attributesAmong before)
    { kind, name, visibility := Rust.visibility t }
  exact ⟨by simp [hheader], by simp [hheader, hname], by simp [hheader], by simp⟩

theorem withVisibility (h : Declared kind shown t inside d) (other : Accessibility) :
    Declared kind other t inside (d.withVisibility other) := by
  obtain ⟨header, children⟩ := d
  exact ⟨h.kind_eq, h.name, rfl, h.children⟩

theorem addChildren (h : Declared kind shown t inside d) (more : List Declaration) :
    Declared kind shown t (inside ++ more) (d.addChildren more) := by
  obtain ⟨header, children⟩ := d
  refine ⟨h.kind_eq, h.name, h.visibility, ?_⟩
  have hchildren : children = typeParameters t ++ inside := h.children
  simp [Declaration.addChildren, hchildren]

theorem addInterfaces (h : Declared kind shown t inside d) (types : List TypeName) :
    Declared kind shown t inside (d.mapHeader fun header => types.foldl addInterface header) := by
  obtain ⟨header, children⟩ := d
  rw [Declaration.mapHeader, foldl_addInterface_eq]
  exact ⟨h.kind_eq, h.name, h.visibility, h.children⟩

end Declared

theorem isSome_declare? (kind : Kind) (before : List ParseTree) (t : ParseTree) :
    (declare? kind before t).isSome = (t.child? "name").isSome := by
  unfold declare? childText?
  cases t.child? "name" <;> rfl

theorem isParameter_of_mem_typeParameters {t : ParseTree} {p : Declaration}
    (h : p ∈ typeParameters t) : IsParameter p := by
  obtain ⟨b, -, rfl⟩ := List.mem_map.mp h
  exact ⟨.inr rfl, rfl, rfl⟩

theorem isParameter_of_mem_parameters {t : ParseTree} {p : Declaration}
    (h : p ∈ parameters t) : IsParameter p := by
  unfold parameters at h
  cases hlist : t.child? "parameters" with
  | none => simp [hlist] at h
  | some list =>
    rw [hlist] at h
    obtain ⟨node, -, hnode⟩ := List.mem_filterMap.mp h
    unfold parameter? at hnode
    split at hnode
    · obtain ⟨pattern, -, rfl⟩ := Option.map_eq_some_iff.mp hnode
      exact ⟨.inl rfl, rfl, rfl⟩
    · cases hnode

/-- What is declared at a node follows the rule, also with what blocks hand over to it. -/
theorem Declared.follows {names : ParseTree → Bool} {place : Place} {kind : Kind}
    {shown : Accessibility} {t : ParseTree} {params own : List Declaration} {d : Declaration}
    (h : Declared kind shown t (params ++ own) d) (hkind : kindOf t = kind)
    (hshown : place.Shows names t shown) (hparams : ∀ p ∈ params, IsParameter p)
    (hown : List.Forall₂ (Follows names) (place.inside t) own) {blocks : List ParseTree}
    (hhanded : blocks = [] ∨ blocks = place.blocksFor d.name)
    (hblocks : List.Forall₂ (Follows names) (blocks.flatMap blockNodes)
      (blocks.flatMap blockMembers)) :
    Follows names (place, t) (receive blocks d) := by
  refine .mk (typeParameters t ++ params) (own ++ blocks.flatMap blockMembers) blocks ?_ ?_ ?_
    hhanded ?_ ?_ (List.rel_append hown hblocks)
  · rw [kind_receive, h.kind_eq, hkind]
  · exact h.name
  · exact h.visibility ▸ hshown
  · simp [receive, h.children]
  · intro p hp
    rcases List.mem_append.mp hp with hp | hp
    · exact isParameter_of_mem_typeParameters hp
    · exact hparams p hp

/-- The same for a declaration with nothing but parameters in it. -/
theorem Declared.follows_of_inside_eq_nil {names : ParseTree → Bool} {place : Place} {kind : Kind}
    {shown : Accessibility} {t : ParseTree} {params : List Declaration} {d : Declaration}
    (h : Declared kind shown t params d) (hkind : kindOf t = kind)
    (hshown : place.Shows names t shown) (hparams : ∀ p ∈ params, IsParameter p)
    (hinside : place.inside t = []) {blocks : List ParseTree}
    (hhanded : blocks = [] ∨ blocks = place.blocksFor d.name)
    (hblocks : List.Forall₂ (Follows names) (blocks.flatMap blockNodes)
      (blocks.flatMap blockMembers)) :
    Follows names (place, t) (receive blocks d) := by
  rw [← List.append_nil params] at h
  exact h.follows hkind hshown hparams (hinside ▸ .nil) hhanded hblocks

/-! ## Members, fields and variants -/

section Leaves

variable {names : ParseTree → Bool} {place : Place} {before : List ParseTree}
  {shown : Accessibility} {t : ParseTree} {d : Declaration}

theorem Declared.of_field? (h : field? before shown t = some d) : Declared .field shown t [] d := by
  obtain ⟨e, he, rfl⟩ := Option.map_eq_some_iff.mp h
  exact (of_declare? he).withVisibility shown

theorem Declared.of_method? (h : method? before shown t = some d) :
    Declared .method shown t (parameters t) d := by
  obtain ⟨e, he, rfl⟩ := Option.map_eq_some_iff.mp h
  simpa using ((of_declare? he).withVisibility shown).addChildren (parameters t)

theorem follows_field? (h : field? before shown t = some d) (hkind : kindOf t = .field)
    (hinside : place.inside t = []) (hshown : place.Shows names t shown) :
    Follows names (place, t) d := by
  rw [← receive_nil d]
  exact (Declared.of_field? h).follows_of_inside_eq_nil hkind hshown (by simp) hinside (.inl rfl)
    .nil

theorem follows_method? (h : method? before shown t = some d) (hkind : kindOf t = .method)
    (hinside : place.inside t = []) (hshown : place.Shows names t shown) :
    Follows names (place, t) d := by
  rw [← receive_nil d]
  exact (Declared.of_method? h).follows_of_inside_eq_nil hkind hshown
    (fun _ => isParameter_of_mem_parameters) hinside (.inl rfl) .nil

end Leaves

theorem isSome_field? (before : List ParseTree) (shown : Accessibility) (t : ParseTree) :
    (field? before shown t).isSome = (t.child? "name").isSome := by
  rw [field?, Option.isSome_map, isSome_declare?]

theorem isSome_method? (before : List ParseTree) (shown : Accessibility) (t : ParseTree) :
    (method? before shown t).isSome = (t.child? "name").isSome := by
  rw [method?, Option.isSome_map, isSome_declare?]

/-- What is read from siblings one by one comes from the nodes from which anything is read. -/
theorem forall₂_withPreceding {R : ParseTree → Declaration → Prop}
    {f : List ParseTree × ParseTree → Option Declaration} {p : ParseTree → Bool}
    {ts : List ParseTree} (hsome : ∀ before t, (f (before, t)).isSome = p t)
    (hR : ∀ before, ∀ t ∈ ts, ∀ d, f (before, t) = some d → R t d) (before : List ParseTree) :
    List.Forall₂ R ((ts.filter named).filter p) ((withPreceding before ts).filterMap f) := by
  induction ts generalizing before with
  | nil => exact .nil
  | cons t ts ih =>
    have hrest := ih fun before u hu => hR before u (List.mem_cons_of_mem t hu)
    rw [withPreceding, List.filter_cons]
    split
    · rename_i hnamed
      rw [List.filter_cons, List.filterMap_cons]
      have hp := hsome before t
      cases hf : f (before, t) with
      | none =>
        rw [hf, Option.isSome_none] at hp
        rw [if_neg (by simp [← hp])]
        exact hrest (t :: before)
      | some d =>
        rw [hf, Option.isSome_some] at hp
        rw [if_pos hp.symm]
        exact .cons (hR before t List.mem_cons_self d hf) (hrest (t :: before))
    · exact hrest before

theorem forall₂_members {names : ParseTree → Bool} {place : Place} {imposed : Option Accessibility}
    (hinside : ∀ t, place.inside t = [])
    (hshown : ∀ t, place.Shows names t (imposed.getD (visibility t))) (body : ParseTree) :
    List.Forall₂ (fun t d => Follows names (place, t) d)
      (body.namedChildren.filter (declares memberKinds)) (members imposed body) := by
  refine forall₂_withPreceding ?_ ?_ []
  · intro before t
    dsimp only
    split
    · rename_i hkind
      simp [isSome_method?, declares, memberKinds, hkind]
    · rename_i hkind
      simp [isSome_method?, declares, memberKinds, hkind]
    · rename_i hkind
      simp [isSome_field?, declares, memberKinds, hkind]
    · simp_all [declares, memberKinds]
  · intro before t _ d h
    dsimp only at h
    split at h
    · rename_i hkind
      exact follows_method? h (by simp [kindOf, hkind]) (hinside t) (hshown t)
    · rename_i hkind
      exact follows_method? h (by simp [kindOf, hkind]) (hinside t) (hshown t)
    · rename_i hkind
      exact follows_field? h (by simp [kindOf, hkind]) (hinside t) (hshown t)
    · cases h

theorem forall₂_structFields (names : ParseTree → Bool) (t : ParseTree) :
    List.Forall₂ (fun f d => Follows names (.field, f) d)
      (bodyNodes ["field_declaration"]
        ((t.child? "body").filter fun b => b.kind = "field_declaration_list"))
      (structFields t) := by
  unfold structFields bodyNodes
  cases hbody : t.child? "body" with
  | none => exact .nil
  | some body =>
    by_cases hlist : body.kind = "field_declaration_list"
    · rw [Option.filter_some, if_pos (by simpa using hlist), Option.elim_some]
      dsimp only
      rw [if_pos hlist]
      refine forall₂_withPreceding ?_ ?_ []
      · intro before f
        dsimp only
        by_cases hkind : f.kind = "field_declaration" <;> simp [declares, hkind, isSome_field?]
      · intro before f _ d h
        dsimp only at h
        split at h
        · rename_i hkind
          exact follows_field? h (by simp [kindOf, hkind]) rfl (written_visibility f)
        · cases h
    · rw [Option.filter_some, if_neg (by simpa using hlist)]
      dsimp only
      rw [if_neg hlist]
      exact .nil

theorem forall₂_variants (names : ParseTree → Bool) (t : ParseTree) :
    List.Forall₂ (fun v d => Follows names (.variant, v) d)
      (bodyNodes ["enum_variant"] (t.child? "body")) (variants t) := by
  unfold variants bodyNodes
  cases t.child? "body" with
  | none => exact .nil
  | some body =>
    refine forall₂_withPreceding ?_ ?_ []
    · intro before v
      dsimp only
      by_cases hkind : v.kind = "enum_variant" <;> simp [declares, hkind, isSome_field?]
    · intro before v _ d h
      dsimp only at h
      split at h
      · rename_i hkind
        exact follows_field? h (by simp [kindOf, hkind]) rfl rfl
      · cases h

theorem forall₂_traitMembers (names : ParseTree → Bool) (t : ParseTree) :
    List.Forall₂ (fun m d => Follows names (.traitMember, m) d)
      (bodyNodes memberKinds (t.child? "body"))
      ((t.child? "body").elim [] (members (some .public))) := by
  have hshown : ∀ m, Place.traitMember.Shows names m
      ((some Accessibility.public).getD (visibility m)) := fun _ => rfl
  unfold bodyNodes
  cases t.child? "body" with
  | none => exact .nil
  | some body => exact forall₂_members (fun _ => rfl) hshown body

/-- The members of a block follow the rule if the block counts as naming a trait exactly when its
trait can be read. -/
theorem forall₂_blockMembers {names : ParseTree → Bool} {block : ParseTree}
    (h : names block = readsTrait block) :
    List.Forall₂ (Follows names) (blockNodes block) (blockMembers block) := by
  have hshown : ∀ t, (Place.blockMember block).Shows names t
      (((blockTrait? block).map fun _ => Accessibility.public).getD (visibility t)) := by
    intro t
    rw [Place.Shows, h, readsTrait]
    cases blockTrait? block with
    | none => exact written_visibility t
    | some trait => rfl
  unfold blockNodes blockMembers bodyNodes
  cases block.child? "body" with
  | none => exact .nil
  | some body =>
    rw [List.forall₂_map_left_iff]
    exact forall₂_members (fun _ => rfl) hshown body

/-! ## Items -/

/-- The declaration of an item other than a block. -/
def item? (before : List ParseTree) (t : ParseTree) : Option Declaration :=
  if t.kind = "mod_item" then
    (t.child? "body").bind fun body =>
      (t.childText? "name").map fun name => .space name (items body.children)
  else plainItem? before t

theorem item_eq_toList (before : List ParseTree) (t : ParseTree) :
    item before t = (item? before t).toList := by
  rw [item_eq, item?]
  split
  · cases t.child? "body" <;> cases t.childText? "name" <;> rfl
  · rfl

theorem itemsFrom_eq_filterMap (before siblings : List ParseTree) :
    itemsFrom before siblings =
      (withPreceding before siblings).filterMap fun p => item? p.1 p.2 := by
  induction siblings generalizing before with
  | nil => simp [itemsFrom, withPreceding]
  | cons t ts ih =>
    rw [itemsFrom, withPreceding]
    split
    · rw [ih, item_eq_toList, List.filterMap_cons]
      cases item? before t <;> rfl
    · exact ih before

theorem isSome_plainItem? (before : List ParseTree) (t : ParseTree) :
    (plainItem? before t).isSome = declares itemKinds t := by
  unfold plainItem?
  split
  · rename_i hkind
    simp [struct?, isSome_declare?, declares, itemKinds, hkind]
  · rename_i hkind
    simp [enum?, isSome_declare?, declares, itemKinds, hkind]
  · rename_i hkind
    simp [trait?, isSome_declare?, declares, itemKinds, hkind]
  · rename_i hkind
    simp [isSome_method?, declares, itemKinds, hkind]
  · rename_i hkind
    simp [isSome_field?, declares, itemKinds, hkind]
  · rename_i hkind
    simp [isSome_field?, declares, itemKinds, hkind]
  · simp_all [declares, itemKinds]

theorem isSome_item? (before : List ParseTree) (t : ParseTree) :
    (item? before t).isSome =
      (declares itemKinds t || (declares ["mod_item"] t && (t.child? "body").isSome)) := by
  rw [item?]
  split
  · rename_i hkind
    cases hbody : t.child? "body" <;> cases hname : t.child? "name" <;>
      simp [declares, itemKinds, hkind, childText?, hname]
  · rename_i hkind
    simp [isSome_plainItem?, declares, hkind]

section Items

variable {names : ParseTree → Bool} {siblings before : List ParseTree} {t : ParseTree}
  {d : Declaration} {blocks : List ParseTree}
  (hhanded : blocks = [] ∨ blocks = (Place.item siblings).blocksFor d.name)
  (hblocks : List.Forall₂ (Follows names) (blocks.flatMap blockNodes)
    (blocks.flatMap blockMembers))

include hhanded hblocks

theorem follows_plainItem? (h : plainItem? before t = some d) :
    Follows names (.item siblings, t) (receive blocks d) := by
  have hshown : t.kind ≠ "mod_item" → (Place.item siblings).Shows names t (visibility t) := by
    intro hkind
    rw [Place.Shows, if_neg hkind]
    exact written_visibility t
  unfold plainItem? at h
  split at h
  · rename_i hkind
    obtain ⟨e, he, rfl⟩ := Option.map_eq_some_iff.mp h
    have hdeclared := (Declared.of_declare? he).addChildren (structFields t)
    refine hdeclared.follows (by simp [kindOf, hkind]) (hshown (by simp [hkind])) (by simp) ?_
      hhanded hblocks
    simpa [Place.inside, hkind] using forall₂_structFields names t
  · rename_i hkind
    obtain ⟨e, he, rfl⟩ := Option.map_eq_some_iff.mp h
    have hdeclared := (Declared.of_declare? he).addChildren (variants t)
    refine hdeclared.follows (by simp [kindOf, hkind]) (hshown (by simp [hkind])) (by simp) ?_
      hhanded hblocks
    simpa [Place.inside, hkind] using forall₂_variants names t
  · rename_i hkind
    obtain ⟨e, he, rfl⟩ := Option.map_eq_some_iff.mp h
    have hdeclared := ((Declared.of_declare? he).addInterfaces
      ((t.child? "bounds").elim [] boundTypes)).addChildren
        ((t.child? "body").elim [] (members (some .public)))
    refine hdeclared.follows (by simp [kindOf, hkind]) (hshown (by simp [hkind])) (by simp) ?_
      hhanded hblocks
    simpa [Place.inside, hkind] using forall₂_traitMembers names t
  · rename_i hkind
    exact (Declared.of_method? h).follows_of_inside_eq_nil (by simp [kindOf, hkind])
      (hshown (by simp [hkind])) (fun _ => isParameter_of_mem_parameters)
      (by simp [Place.inside, hkind]) hhanded hblocks
  · rename_i hkind
    exact (Declared.of_field? h).follows_of_inside_eq_nil (by simp [kindOf, hkind])
      (hshown (by simp [hkind])) (by simp) (by simp [Place.inside, hkind]) hhanded hblocks
  · rename_i hkind
    exact (Declared.of_field? h).follows_of_inside_eq_nil (by simp [kindOf, hkind])
      (hshown (by simp [hkind])) (by simp) (by simp [Place.inside, hkind]) hhanded hblocks
  · cases h

theorem follows_item?
    (hbody : ∀ body, t.child? "body" = some body →
      AllFollow names body.children (items body.children))
    (h : item? before t = some d) : Follows names (.item siblings, t) (receive blocks d) := by
  rw [item?] at h
  split at h
  · rename_i hkind
    obtain ⟨body, hchild, h⟩ := Option.bind_eq_some_iff.mp h
    obtain ⟨name, hname, rfl⟩ := Option.map_eq_some_iff.mp h
    have hinside : (Place.item siblings).inside t =
        (itemNodes body.children).map fun i => (.item body.children, i) := by
      simp [Place.inside, hkind, hchild]
    have hitems : List.Forall₂ (Follows names) ((Place.item siblings).inside t)
        (items body.children) := by
      rw [hinside, List.forall₂_map_left_iff]
      exact hbody body hchild
    refine .mk [] (items body.children ++ blocks.flatMap blockMembers) blocks ?_ hname ?_ hhanded
      rfl (by simp) (List.rel_append hitems hblocks)
    · simp [kindOf, hkind, Declaration.space]
    · rw [Place.Shows, if_pos hkind]
      rfl
  · exact follows_plainItem? hhanded hblocks h

end Items

theorem forall₂_handOver {R Q : ParseTree → Declaration → Prop} {blocks ts : List ParseTree}
    {ds : List Declaration} (h : List.Forall₂ R ts ds)
    (hR : ∀ t d, R t d → Q t d ∧ Q t (receive (blocks.filter fun b => IsFor d.name b) d)) :
    List.Forall₂ Q ts (handOver blocks ds) := by
  induction h with
  | nil => exact .nil
  | @cons t d ts ds htd _ ih =>
    rw [handOver]
    refine .cons ?_ ih
    split
    · exact (hR t d htd).2
    · exact (hR t d htd).1

theorem allFollow_items {names : ParseTree → Bool} {siblings : List ParseTree}
    (hblocks : ∀ b ∈ blocks siblings, names b = readsTrait b)
    (hbody : ∀ t ∈ siblings, ∀ body, t.child? "body" = some body →
      AllFollow names body.children (items body.children)) :
    AllFollow names siblings (items siblings) := by
  have hmembers : ∀ bs ⊆ blocks siblings,
      List.Forall₂ (Follows names) (bs.flatMap blockNodes) (bs.flatMap blockMembers) :=
    fun bs hbs => forall₂_flatMap fun b hb => forall₂_blockMembers (hblocks b (hbs hb))
  have hread : List.Forall₂ (fun t d => ∃ before, t ∈ siblings ∧ item? before t = some d)
      (itemNodes siblings) (plainItems siblings) := by
    rw [plainItems, ← itemsFrom_eq, itemsFrom_eq_filterMap]
    exact forall₂_withPreceding isSome_item? (fun before t ht d h => ⟨before, ht, h⟩) []
  rw [items_eq_handOver]
  refine forall₂_handOver hread ?_
  rintro t d ⟨before, ht, h⟩
  constructor
  · rw [← receive_nil d]
    exact follows_item? (.inl rfl) .nil (hbody t ht) h
  · exact follows_item? (.inr rfl) (hmembers _ (List.filter_subset_self _)) (hbody t ht) h

theorem allFollow_declarations {names : ParseTree → Bool} {file : ParseTree}
    (h : file.Everywhere fun t => t.kind = "impl_item" → names t = readsTrait t) :
    AllFollow names file.children (declarations file) := by
  suffices hboth : AllFollow names file.children (items file.children) ∧
      ∀ body, file.child? "body" = some body →
        AllFollow names body.children (items body.children) from hboth.1
  induction h with
  | @node label children here inside ih =>
    constructor
    · refine allFollow_items (fun b hb => ?_) fun t ht => (ih t ht).2
      obtain ⟨hmem, hkind⟩ := List.mem_filter.mp hb
      exact (inside b hmem).here (by simp_all)
    · intro body hbody
      exact (ih body (List.mem_of_find?_eq_some hbody)).1

theorem namesTrait_of_readsTrait {block : ParseTree} (h : readsTrait block = true) :
    namesTrait block = true := by
  unfold readsTrait blockTrait? at h
  unfold namesTrait
  cases hchild : block.child? "trait" with
  | none => simp [hchild] at h
  | some trait => rfl

/-- Every declaration of a file follows the rule, where the blocks that impose a visibility are
those whose trait can be read as a type; so the rule for all blocks that name a trait is followed
where every trait can be read. -/
theorem declarations_follow_visibility_rule (file : ParseTree) :
    AllFollow readsTrait file.children (declarations file) ∧
      ((file.Everywhere fun t => t.kind = "impl_item" → namesTrait t = true →
          readsTrait t = true) →
        AllFollow namesTrait file.children (declarations file)) := by
  constructor
  · exact allFollow_declarations (.of_forall (fun _ _ => rfl) file)
  · intro h
    apply allFollow_declarations
    refine h.imp fun t ht hkind => ?_
    rw [Bool.eq_iff_iff]
    exact ⟨ht hkind, namesTrait_of_readsTrait⟩

/-! ## A trait that is no type name -/

open Source (token)

def bellStruct : ParseTree :=
  .node ⟨"struct_item", true, "", "struct Bell;"⟩ [
    token "struct" false "" "struct",
    token "type_identifier" true "name" "Bell",
    token ";" false "" ";"]

def bareFunctionType (field : String) : ParseTree :=
  .node ⟨"function_type", true, field, "fn()"⟩ [
    token "fn" false "" "fn",
    .node ⟨"parameters", true, "parameters", "()"⟩ [token "(" false "" "(", token ")" false "" ")"]]

def fromText : String := "fn from(ring: fn()) -> Self \x7b Bell \x7d"

def bellFrom : ParseTree :=
  .node ⟨"function_item", true, "", fromText⟩ [
    token "fn" false "" "fn",
    token "identifier" true "name" "from",
    .node ⟨"parameters", true, "parameters", "(ring: fn())"⟩ [
      token "(" false "" "(",
      .node ⟨"parameter", true, "", "ring: fn()"⟩ [
        token "identifier" true "pattern" "ring",
        token ":" false "" ":",
        bareFunctionType "type"],
      token ")" false "" ")"],
    token "->" false "" "->",
    token "type_identifier" true "" "Self",
    .node ⟨"block", true, "body", "\x7b Bell \x7d"⟩ [
      token "\x7b" false "" "\x7b",
      token "identifier" true "" "Bell",
      token "\x7d" false "" "\x7d"]]

/-- A block that names a trait over functions, the text of which is not read as a type. -/
def bellBlock : ParseTree :=
  .node ⟨"impl_item", true, "", "impl From<fn()> for Bell \x7b " ++ fromText ++ " \x7d"⟩ [
    token "impl" false "" "impl",
    .node ⟨"generic_type", true, "trait", "From<fn()>"⟩ [
      token "type_identifier" true "type" "From",
      .node ⟨"type_arguments", true, "", "<fn()>"⟩ [
        token "<" false "" "<", bareFunctionType "", token ">" false "" ">"]],
    token "for" false "" "for",
    token "type_identifier" true "type" "Bell",
    .node ⟨"declaration_list", true, "body", "\x7b " ++ fromText ++ " \x7d"⟩ [
      token "\x7b" false "" "\x7b", bellFrom, token "\x7d" false "" "\x7d"]]

def bellFile : ParseTree :=
  .node ⟨"source_file", true, "",
      "struct Bell;\nimpl From<fn()> for Bell \x7b " ++ fromText ++ " \x7d"⟩
    [bellStruct, bellBlock]

/-- What is read from the function in the block. -/
def privateFrom : Declaration :=
  .node { kind := .method, name := "from", visibility := .private } [.ofKind .parameter "ring"]

theorem declarations_bellFile :
    declarations bellFile =
      [.node { kind := .struct, name := "Bell", visibility := .private } [privateFrom]] := by
  cbv

/-- The block names a trait, and its function is private. -/
theorem not_allFollow_bellFile :
    ¬AllFollow namesTrait bellFile.children (declarations bellFile) := by
  intro h
  have hnodes : itemNodes bellFile.children = [bellStruct] := by cbv
  have horigins : (Place.item bellFile.children).inside bellStruct ++
      ((Place.item bellFile.children).blocksFor "Bell").flatMap blockNodes =
        [(.blockMember bellBlock, bellFrom)] := by
    cbv
  rw [AllFollow, hnodes, declarations_bellFile, List.forall₂_cons] at h
  have hparameter : ¬IsParameter privateFrom := fun hp => by simpa [privateFrom] using hp.kind
  obtain ⟨o, ho, hfollows⟩ := h.1.exists_origin (c := privateFrom) (by simp) hparameter
  rw [Declaration.name_node, horigins, List.mem_singleton] at ho
  subst ho
  cases hfollows with
  | mk _ _ _ _ _ shown =>
    -- The rule asks for `public`.
    cases shown

end DeclTree.Rust

import DeclTree.Proofs.ParseTree.Stripping
import DeclTree.Source.RustItems

/-!
# Comments among Rust items

Comments may stand anywhere. Attributes are looked for behind them, and most of what is read is a
child of a kind or one known under a name. Two things are not: an attribute is read by the first
child at each of two levels, and every child in a list of bounds is read as a type unless its kind
says otherwise. Where no comment stands there, what is read is what is read of the tree with all
comments left out.
-/

namespace DeclTree.Rust

open ParseTree

/-- No comment among the children of a node stands where it would be read. -/
@[mk_iff] structure Undisturbed (t : ParseTree) : Prop where
  nameless : t.Nameless isComment
  /-- A comment in a `where` clause is not a predicate. -/
  predicates : ∀ c ∈ t.children, isComment c = true → c.child? "left" = none
  /-- An attribute and its path come first. -/
  attributes : isAttribute t = true → ∀ c, t.firstNamed? = some c →
    isComment c = false ∧ ∀ d, c.firstNamed? = some d → isComment d = false
  /-- The text of no comment in a list of bounds is a type. -/
  bounds : t.field = "bounds" → ∀ c ∈ t.namedChildren, isComment c = true → c.typeName? = none

theorem isComment_iff {t : ParseTree} :
    isComment t = true ↔ t.kind = "line_comment" ∨ t.kind = "block_comment" := by
  simp [isComment]

section Node

variable {t : ParseTree} (h : t.Everywhere Undisturbed)

include h

theorem annotate_strip (hattribute : isAttribute t = true) (header : Header) :
    annotate header (t.strip isComment) = annotate header t := by
  have hfirst := h.here.attributes hattribute
  rw [annotate, annotate, firstNamed?_strip fun c hc => (hfirst c hc).1]
  cases hc : t.firstNamed? with
  | none => rfl
  | some c =>
    have hpath : (c.strip isComment).firstNamed?.bind typeName? = c.firstNamed?.bind typeName? := by
      rw [firstNamed?_strip (hfirst c hc).2, bind_typeName?_strip]
    have harguments : ((c.strip isComment).child? "arguments").elim [] derivedTraits =
        (c.child? "arguments").elim [] derivedTraits :=
      elim_child?_strip (h.find? hc).here.nameless (by simp) (fun d _ => by simp [derivedTraits]) []
    simp only [Option.map_some, hpath, harguments]

/-- Leaving out comments changes the types in a list of bounds exactly if one of them is a type. -/
theorem boundTypes_strip_iff :
    boundTypes (t.strip isComment) = boundTypes t ↔
      ∀ c ∈ t.namedChildren, isComment c = true → c.typeName? = none := by
  rw [boundTypes, namedChildren_strip, boundTypes, filterMap_stripAll_iff]
  · refine forall₂_congr fun c _ => imp_congr_right fun hcomment => ?_
    rcases isComment_iff.mp hcomment with hkind | hkind <;> simp [hkind]
  · intro c hc
    have hnameless := (h.namedChildren c hc).here.nameless
    simp only [kind_strip, typeName?_strip]
    split
    · rfl
    · rfl
    · rw [child?_strip hnameless (by simp), bind_typeName?_strip]
    · rfl

theorem boundTypes_strip {b : ParseTree} (hb : t.child? "bounds" = some b) :
    boundTypes (b.strip isComment) = boundTypes b := by
  have hfield : b.field = "bounds" := by simpa using List.find?_some hb
  exact (boundTypes_strip_iff (h.find? hb)).mpr ((h.find? hb).here.bounds hfield)

theorem elim_bounds_strip :
    ((t.strip isComment).child? "bounds").elim [] boundTypes =
      (t.child? "bounds").elim [] boundTypes :=
  elim_child?_strip h.here.nameless (by simp) (fun _ hb => boundTypes_strip h hb) []

theorem boundedBy_strip {field : String} (hfield : field ≠ "") :
    boundedBy field (t.strip isComment) = boundedBy field t := by
  rw [boundedBy, childText?_strip h.here.nameless hfield, elim_bounds_strip h, boundedBy]

theorem addPredicate_strip (params : List Bounded) :
    addPredicate params (t.strip isComment) = addPredicate params t := by
  rw [addPredicate, addPredicate, childText?_strip h.here.nameless (by simp),
    child?_strip h.here.nameless (by simp)]
  cases t.childText? "left" with
  | none => rfl
  | some left =>
    cases hb : t.child? "bounds" with
    | none => rfl
    | some b => simp only [Option.map_some, boundTypes_strip h hb]

end Node

theorem visibility_strip (t : ParseTree) : visibility (t.strip isComment) = visibility t := by
  have hmodifier : (t.strip isComment).childOfKind? "visibility_modifier" =
      (t.childOfKind? "visibility_modifier").map (strip isComment) :=
    childOfKind?_strip (fun c hc => by simp [isComment, hc]) t
  rw [visibility, hmodifier, visibility]
  cases t.childOfKind? "visibility_modifier" with
  | none => rfl
  | some modifier => simp only [Option.map_some, text_strip]

theorem boundedName?_eq (ts : List ParseTree) :
    boundedName? ts = (ts.find? fun c => c.field == "name").elim none bounded? := by
  induction ts with
  | nil => rfl
  | cons t ts ih =>
    rw [boundedName?]
    split
    · rename_i hfield
      simp [hfield]
    · rename_i hfield
      simp [hfield, ih]

theorem bounded?_eq (t : ParseTree) :
    bounded? t =
      match t.kind with
      | "type_identifier" => some ⟨t.text, []⟩
      | "constrained_type_parameter" => boundedBy "left" t
      | "type_parameter" => boundedBy "name" t
      | "optional_type_parameter" => (t.child? "name").elim none bounded?
      | _ => none := by
  cases t
  rw [bounded?, boundedName?_eq]
  rfl

theorem bounded?_strip {t : ParseTree} (h : t.Everywhere Undisturbed) :
    bounded? (t.strip isComment) = bounded? t := by
  induction h with
  | @node label children here inside ih =>
    have hname : (((node label children).strip isComment).child? "name").elim none bounded? =
        ((node label children).child? "name").elim none bounded? :=
      elim_child?_strip here.nameless (by simp)
        (fun c hc => ih c (List.mem_of_find?_eq_some hc)) none
    have hleft := boundedBy_strip (.node here inside) (show "left" ≠ "" by simp)
    have hown := boundedBy_strip (.node here inside) (show "name" ≠ "" by simp)
    rw [bounded?_eq, bounded?_eq]
    simp only [kind_strip, text_strip, hname, hleft, hown]

theorem isAttribute_strip (t : ParseTree) : isAttribute (t.strip isComment) = isAttribute t := by
  rw [isAttribute, kind_strip, isAttribute]

theorem isComment_strip (t : ParseTree) : isComment (t.strip isComment) = isComment t := by
  rw [isComment, kind_strip, isComment]

theorem isAttribute_of_isComment {t : ParseTree} (h : isComment t = true) :
    isAttribute t = false := by
  rcases isComment_iff.mp h with hkind | hkind <;> simp [isAttribute, hkind]

/-- Comments between an item and its attributes are passed over. -/
theorem attributesAmong_stripAll (before : List ParseTree) :
    attributesAmong (stripAll isComment before) =
      (attributesAmong before).map (strip isComment) := by
  rw [attributesAmong, attributesAmong, List.map_reverse]
  congr 1
  induction before with
  | nil => simp
  | cons b before ih =>
    cases hcomment : isComment b with
    | true =>
      have hattribute := isAttribute_of_isComment hcomment
      simp [stripAll_cons_pos hcomment, hcomment, hattribute, ih]
    | false =>
      rw [stripAll_cons_neg hcomment]
      cases hattribute : isAttribute b with
      | true => simp [isAttribute_strip, hattribute, ih]
      | false => simp [isAttribute_strip, isComment_strip, hattribute, hcomment]

theorem foldl_annotate_stripAll {before : List ParseTree}
    (hbefore : ∀ b ∈ before, b.Everywhere Undisturbed) (header : Header) :
    (attributesAmong (stripAll isComment before)).foldl annotate header =
      (attributesAmong before).foldl annotate header := by
  rw [attributesAmong_stripAll, List.foldl_map]
  apply List.foldl_ext
  intro header b hb
  have hmem := List.mem_filter.mp (List.mem_reverse.mp hb)
  exact annotate_strip (hbefore b ((List.takeWhile_sublist _).mem hmem.1)) hmem.2 header

theorem predicates_strip (t : ParseTree) :
    predicates (t.strip isComment) = stripAll isComment (predicates t) := by
  have hclauses : (stripAll isComment t.children).filter (fun c => c.kind == "where_clause") =
      (t.children.filter fun c => c.kind == "where_clause").map (strip isComment) :=
    filter_stripAll (fun c => by rw [kind_strip]) (fun c hc => by simp_all [isComment]) t.children
  rw [predicates, children_strip, hclauses, List.flatMap_map, predicates, stripAll_eq_map,
    List.filter_flatMap, List.map_flatMap]
  simp only [namedChildren_strip, stripAll_eq_map]

theorem foldl_addPredicate_strip {t : ParseTree} (h : t.Everywhere Undisturbed)
    (params : List Bounded) :
    (predicates (t.strip isComment)).foldl addPredicate params =
      (predicates t).foldl addPredicate params := by
  have hclause : ∀ p ∈ predicates t, ∃ c ∈ t.children, p ∈ c.namedChildren := by
    intro p hp
    obtain ⟨c, hc, hp⟩ := List.mem_flatMap.mp hp
    exact ⟨c, List.mem_of_mem_filter hc, hp⟩
  rw [predicates_strip]
  refine foldl_stripAll ?_ ?_ params
  · intro p hp params
    obtain ⟨c, hc, hp⟩ := hclause p hp
    exact addPredicate_strip ((h.children c hc).namedChildren p hp) params
  · intro p hp hcomment params
    obtain ⟨c, hc, hp⟩ := hclause p hp
    have hleft := (h.children c hc).here.predicates p (List.mem_of_mem_filter hp) hcomment
    rw [addPredicate, childText?, hleft]
    rfl

theorem typeParameters_strip {t : ParseTree} (h : t.Everywhere Undisturbed) :
    typeParameters (t.strip isComment) = typeParameters t := by
  have hlist : ((t.strip isComment).child? "type_parameters").elim []
        (fun list => list.namedChildren.filterMap bounded?) =
      (t.child? "type_parameters").elim [] fun list => list.namedChildren.filterMap bounded? := by
    refine elim_filterMap_strip h.here.nameless (by simp) ?_ ?_
    · exact fun list hlist p hp => bounded?_strip ((h.find? hlist).namedChildren p hp)
    · intro p hcomment
      rcases isComment_iff.mp hcomment with hkind | hkind <;> simp [bounded?_eq, hkind]
  simp only [typeParameters, hlist, foldl_addPredicate_strip h]

section Item

variable {before : List ParseTree} (hbefore : ∀ b ∈ before, b.Everywhere Undisturbed)
  {t : ParseTree} (h : t.Everywhere Undisturbed)

include hbefore h

theorem declare?_strip (kind : Kind) :
    declare? kind (stripAll isComment before) (t.strip isComment) = declare? kind before t := by
  simp only [declare?, name_strip h.here.nameless,
    visibility_strip, foldl_annotate_stripAll hbefore, typeParameters_strip h]

theorem field?_strip (shown : Accessibility) :
    field? (stripAll isComment before) shown (t.strip isComment) = field? before shown t := by
  rw [field?, declare?_strip hbefore h, field?]

omit hbefore in
theorem parameters_strip : parameters (t.strip isComment) = parameters t := by
  refine elim_filterMap_strip h.here.nameless (by simp) ?_ ?_
  · intro list hlist p hp
    have hnameless := ((h.find? hlist).namedChildren p hp).here.nameless
    rw [parameter?, kind_strip, childText?_strip hnameless (by simp), parameter?]
  · intro p hcomment
    rcases isComment_iff.mp hcomment with hkind | hkind <;> simp [parameter?, hkind]

theorem method?_strip (shown : Accessibility) :
    method? (stripAll isComment before) shown (t.strip isComment) = method? before shown t := by
  rw [method?, declare?_strip hbefore h, parameters_strip h, method?]

end Item

/-- Reading siblings one by one, each with those before it, if comments among them are not read and
comments in them and before them do not matter. -/
theorem filterMap_withPreceding_stripAll {α : Type} {f : List ParseTree × ParseTree → Option α}
    {before ts : List ParseTree} (hbefore : ∀ b ∈ before, b.Everywhere Undisturbed)
    (hts : ∀ t ∈ ts, t.Everywhere Undisturbed)
    (hcomment : ∀ before t, isComment t = true → f (before, t) = none)
    (hf : ∀ before t, (∀ b ∈ before, b.Everywhere Undisturbed) → t.Everywhere Undisturbed →
      f (stripAll isComment before, t.strip isComment) = f (before, t)) :
    (withPreceding (stripAll isComment before) (stripAll isComment ts)).filterMap f =
      (withPreceding before ts).filterMap f := by
  induction ts generalizing before with
  | nil => simp [withPreceding]
  | cons t ts ih =>
    obtain ⟨ht, hts⟩ := List.forall_mem_cons.mp hts
    have hwith : ∀ b ∈ t :: before, b.Everywhere Undisturbed :=
      List.forall_mem_cons.mpr ⟨ht, hbefore⟩
    cases hc : isComment t with
    | true =>
      -- The comment is before all that follows, and stripping takes it away there too.
      have hnext := ih hwith hts
      rw [stripAll_cons_pos hc] at hnext ⊢
      rw [withPreceding]
      split
      · rw [hnext, List.filterMap_cons_none (hcomment before t hc)]
      · exact ih hbefore hts
    | false =>
      have hnext := ih hwith hts
      rw [stripAll_cons_neg hc] at hnext ⊢
      rw [withPreceding, withPreceding, named_strip]
      split
      · rw [List.filterMap_cons, List.filterMap_cons, hf before t hbefore ht, hnext]
      · exact ih hbefore hts

theorem members_strip {body : ParseTree} (h : body.Everywhere Undisturbed)
    (imposed : Option Accessibility) :
    members imposed (body.strip isComment) = members imposed body := by
  rw [members, children_strip, ← stripAll_nil]
  refine filterMap_withPreceding_stripAll (by simp) h.children ?_ ?_
  · intro before t hcomment
    rcases isComment_iff.mp hcomment with hkind | hkind <;> simp [hkind]
  · intro before t hbefore ht
    simp only [kind_strip, visibility_strip, method?_strip hbefore ht, field?_strip hbefore ht]

theorem structFields_strip {t : ParseTree} (h : t.Everywhere Undisturbed) :
    structFields (t.strip isComment) = structFields t := by
  rw [structFields, child?_strip h.here.nameless (by simp), structFields]
  cases hbody : t.child? "body" with
  | none => rfl
  | some body =>
    simp only [Option.map_some, kind_strip, children_strip]
    split
    · rw [← stripAll_nil]
      refine filterMap_withPreceding_stripAll (by simp) (h.find? hbody).children ?_ ?_
      · intro before f hcomment
        rcases isComment_iff.mp hcomment with hkind | hkind <;> simp [hkind]
      · intro before f hbefore hf
        simp only [kind_strip, visibility_strip, field?_strip hbefore hf]
    · rfl

theorem variants_strip {t : ParseTree} (h : t.Everywhere Undisturbed) :
    variants (t.strip isComment) = variants t := by
  refine elim_child?_strip h.here.nameless (by simp) (fun body hbody => ?_) []
  rw [children_strip, ← stripAll_nil]
  refine filterMap_withPreceding_stripAll (by simp) (h.find? hbody).children ?_ ?_
  · intro before v hcomment
    rcases isComment_iff.mp hcomment with hkind | hkind <;> simp [hkind]
  · intro before v hbefore hv
    simp only [kind_strip, field?_strip hbefore hv]

theorem plainItem?_strip {before : List ParseTree} {t : ParseTree}
    (hbefore : ∀ b ∈ before, b.Everywhere Undisturbed) (h : t.Everywhere Undisturbed) :
    plainItem? (stripAll isComment before) (t.strip isComment) = plainItem? before t := by
  have hmembers : ((t.strip isComment).child? "body").elim [] (members (some .public)) =
      (t.child? "body").elim [] (members (some .public)) :=
    elim_child?_strip h.here.nameless (by simp)
      (fun body hbody => members_strip (h.find? hbody) _) []
  simp only [plainItem?, kind_strip, struct?, enum?, trait?, visibility_strip,
    declare?_strip hbefore h, structFields_strip h, variants_strip h, elim_bounds_strip h, hmembers,
    method?_strip hbefore h, field?_strip hbefore h]

theorem selfNameIn?_eq (ts : List ParseTree) :
    selfNameIn? ts = (ts.find? fun c => c.field == "type").elim none selfName? := by
  induction ts with
  | nil => rfl
  | cons t ts ih =>
    rw [selfNameIn?]
    split
    · rename_i hfield
      simp [hfield]
    · rename_i hfield
      simp [hfield, ih]

theorem selfName?_eq (t : ParseTree) :
    selfName? t =
      match t.kind with
      | "type_identifier" => some t.text
      | "generic_type" => (t.child? "type").elim none selfName?
      | "scoped_type_identifier" => t.childText? "name"
      | _ => none := by
  cases t
  rw [selfName?, selfNameIn?_eq]
  rfl

theorem selfName?_strip {t : ParseTree} (h : t.Everywhere Undisturbed) :
    selfName? (t.strip isComment) = selfName? t := by
  induction h with
  | @node label children here inside ih =>
    have htype : (((node label children).strip isComment).child? "type").elim none selfName? =
        ((node label children).child? "type").elim none selfName? :=
      elim_child?_strip here.nameless (by simp)
        (fun c hc => ih c (List.mem_of_find?_eq_some hc)) none
    rw [selfName?_eq, selfName?_eq]
    simp only [kind_strip, text_strip, htype, name_strip here.nameless]

theorem attach_strip {block : ParseTree} (h : block.Everywhere Undisturbed)
    (ds : List Declaration) : attach ds (block.strip isComment) = attach ds block := by
  have hself : selfNameIn? (block.strip isComment).children = selfNameIn? block.children := by
    rw [selfNameIn?_eq, selfNameIn?_eq]
    exact elim_child?_strip h.here.nameless (by simp)
      (fun c hc => selfName?_strip (h.find? hc)) none
  have hextend : extend (block.strip isComment) = extend block := by
    funext d
    have hmembers : ∀ imposed, ((block.strip isComment).child? "body").elim [] (members imposed) =
        (block.child? "body").elim [] (members imposed) := fun imposed =>
      elim_child?_strip h.here.nameless (by simp)
        (fun body hbody => members_strip (h.find? hbody) imposed) []
    simp only [extend, child?_strip h.here.nameless (show "trait" ≠ "" by simp),
      bind_typeName?_strip, hmembers]
  rw [attach, hself, hextend, attach]

theorem blocks_stripAll (siblings : List ParseTree) :
    blocks (stripAll isComment siblings) = (blocks siblings).map (strip isComment) := by
  refine filter_stripAll (fun t => by simp) (fun t ht => ?_) siblings
  have hkind : t.kind = "impl_item" := by simp_all
  simp [isComment, hkind]

theorem bodyItems?_eq (ts : List ParseTree) :
    bodyItems? ts = (ts.find? fun c => c.field == "body").map fun c => items c.children := by
  induction ts with
  | nil => simp [bodyItems?]
  | cons t ts ih =>
    obtain ⟨label, children⟩ := t
    rw [bodyItems?]
    split
    · rename_i hfield
      simp [ParseTree.field, hfield, items]
    · rename_i hfield
      simp [ParseTree.field, hfield, ih]

theorem item_eq (before : List ParseTree) (t : ParseTree) :
    item before t =
      if t.kind = "mod_item" then
        match (t.child? "body").map fun c => items c.children, t.childText? "name" with
        | some ds, some name => [.space name ds]
        | _, _ => []
      else (plainItem? before t).toList := by
  cases t
  rw [item, bodyItems?_eq]
  rfl

theorem item_of_isComment {t : ParseTree} (h : isComment t = true) (before : List ParseTree) :
    item before t = [] := by
  rcases isComment_iff.mp h with hkind | hkind <;> simp [item_eq, plainItem?, hkind]

theorem itemsFrom_stripAll {before ts : List ParseTree}
    (hbefore : ∀ b ∈ before, b.Everywhere Undisturbed) (hts : ∀ t ∈ ts, t.Everywhere Undisturbed)
    (hitem : ∀ t ∈ ts, ∀ before : List ParseTree, (∀ b ∈ before, b.Everywhere Undisturbed) →
      item (stripAll isComment before) (t.strip isComment) = item before t) :
    itemsFrom (stripAll isComment before) (stripAll isComment ts) = itemsFrom before ts := by
  induction ts generalizing before with
  | nil => simp [itemsFrom]
  | cons t ts ih =>
    obtain ⟨ht, hts⟩ := List.forall_mem_cons.mp hts
    obtain ⟨hthis, hitem⟩ := List.forall_mem_cons.mp hitem
    have hnext := ih (List.forall_mem_cons.mpr ⟨ht, hbefore⟩) hts hitem
    cases hc : isComment t with
    | true =>
      rw [stripAll_cons_pos hc] at hnext ⊢
      rw [itemsFrom]
      split
      · rw [hnext, item_of_isComment hc, List.nil_append]
      · exact ih hbefore hts hitem
    | false =>
      rw [stripAll_cons_neg hc] at hnext ⊢
      rw [itemsFrom, itemsFrom, named_strip]
      split
      · rw [hthis before hbefore, hnext]
      · exact ih hbefore hts hitem

theorem items_stripAll {siblings : List ParseTree}
    (hsiblings : ∀ t ∈ siblings, t.Everywhere Undisturbed)
    (hitem : ∀ t ∈ siblings, ∀ before : List ParseTree, (∀ b ∈ before, b.Everywhere Undisturbed) →
      item (stripAll isComment before) (t.strip isComment) = item before t) :
    items (stripAll isComment siblings) = items siblings := by
  have hplain : itemsFrom [] (stripAll isComment siblings) = itemsFrom [] siblings := by
    rw [← itemsFrom_stripAll (by simp) hsiblings hitem, stripAll_nil]
  rw [items, hplain, blocks_stripAll, List.foldl_map, items]
  apply List.foldl_ext
  intro ds block hblock
  exact attach_strip (hsiblings block (List.mem_of_mem_filter hblock)) ds

theorem declarations_strip {file : ParseTree} (h : file.Everywhere Undisturbed) :
    declarations (file.strip isComment) = declarations file := by
  suffices hboth : (∀ before : List ParseTree, (∀ b ∈ before, b.Everywhere Undisturbed) →
        item (stripAll isComment before) (file.strip isComment) = item before file) ∧
      items (file.strip isComment).children = items file.children from hboth.2
  induction h with
  | @node label children here inside ih =>
    constructor
    · intro before hbefore
      have hbody : (((node label children).strip isComment).child? "body").map
            (fun c => items c.children) =
          ((node label children).child? "body").map fun c => items c.children := by
        rw [child?_strip here.nameless (by simp)]
        cases hc : (node label children).child? "body" with
        | none => rfl
        | some c => exact congrArg some (ih c (List.mem_of_find?_eq_some hc)).2
      rw [item_eq, hbody, kind_strip, name_strip here.nameless,
        plainItem?_strip hbefore (.node here inside), item_eq]
    · rw [children_strip]
      exact items_stripAll inside fun t ht => (ih t ht).1

end DeclTree.Rust

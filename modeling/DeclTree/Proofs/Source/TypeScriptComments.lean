import DeclTree.Proofs.ParseTree.Stripping
import DeclTree.Source.TypeScriptStatements
import Mathlib.Data.List.Chain

/-!
# Comments among TypeScript statements

Comments may stand anywhere, and are read at three places: as the first child where only that one is
read, as types in lists of types, and behind a decorator, where they take what belongs to the next
member. Where no comment stands there, what is read is what is read of the tree with all comments
left out.
-/

namespace DeclTree.TypeScript

open ParseTree

def isComment (t : ParseTree) : Bool := t.kind == "comment"

/-- Nodes of which only the first child is read. -/
def ReadsFirst (t : ParseTree) : Prop :=
  t.kind = "decorator" ∨ t.kind = "expression_statement" ∨ t.field = "constraint"

/-- The kinds of nodes of which every child is read as a type. -/
def typeListKinds : List String :=
  ["union_type", "intersection_type", "parenthesized_type", "implements_clause",
    "extends_type_clause"]

/-- No comment among the children of a node stands where it would be read. -/
@[mk_iff] structure Undisturbed (t : ParseTree) : Prop where
  nameless : t.Nameless isComment
  first : ReadsFirst t → ∀ c, t.firstNamed? = some c → isComment c = false
  /-- The text of no comment in a list of types is a type. -/
  types : t.kind ∈ typeListKinds →
    ∀ c ∈ t.namedChildren, isComment c = true → c.typeName? = none
  /-- No comment stands between a decorator and its member. -/
  members : t.field = "body" →
    t.namedChildren.IsChain fun a b => a.kind = "decorator" → isComment b = false

theorem isComment_iff {t : ParseTree} : isComment t = true ↔ t.kind = "comment" := by
  simp [isComment]

section Node

variable {t : ParseTree} (h : t.Everywhere Undisturbed)

include h

theorem decoratorType?_strip (hkind : t.kind = "decorator") :
    decoratorType? (t.strip isComment) = decoratorType? t := by
  ext type
  rw [decoratorType?_eq_some_iff, decoratorType?_eq_some_iff,
    firstNamed?_strip (h.here.first (.inl hkind))]
  cases hc : t.firstNamed? with
  | none => simp
  | some c =>
    have hfunction : (c.strip isComment).child? "function" =
        (c.child? "function").map (strip isComment) :=
      child?_strip (h.find? hc).here.nameless (by simp)
    simp [hfunction, typeName?_strip]

theorem decorators_strip : decorators (t.strip isComment) = decorators t := by
  have hdecorators : (stripAll isComment t.children).filter (fun c => c.kind == "decorator") =
      (t.children.filter fun c => c.kind == "decorator").map (strip isComment) :=
    filter_stripAll (fun c => by rw [kind_strip]) (fun c hc => by simp_all [isComment]) t.children
  rw [decorators, children_strip, hdecorators, List.filterMap_map, decorators]
  apply List.filterMap_congr
  intro c hc
  obtain ⟨hmem, hkind⟩ := List.mem_filter.mp hc
  exact decoratorType?_strip (h.children c hmem) (by simpa using hkind)

end Node

/-- Leaving out comments changes the types of a clause exactly if one of them is a type. -/
theorem typeList_strip_iff {t : ParseTree} :
    typeList (t.strip isComment) = typeList t ↔
      ∀ c ∈ t.namedChildren, isComment c = true → c.typeName? = none := by
  rw [typeList, namedChildren_strip, typeList]
  exact filterMap_stripAll_iff fun c _ => typeName?_strip c

theorem constrain_of_isComment {t : ParseTree} (h : isComment t = true) (htype : t.typeName? = none)
    (c : Constraints) : constrain c t = c := by
  obtain ⟨label, children⟩ := t
  have hkind : label.kind = "comment" := isComment_iff.mp h
  rw [constrain]
  simp [hkind, htype]

theorem constrainAll_eq (c : Constraints) (ts : List ParseTree) :
    constrainAll c ts = (ts.filter named).foldl constrain c := by
  induction ts generalizing c with
  | nil => simp [constrainAll]
  | cons t ts ih =>
    rw [constrainAll, ih]
    cases hnamed : t.named <;> simp [hnamed]

theorem constrain_strip {t : ParseTree} (h : t.Everywhere Undisturbed) (c : Constraints) :
    constrain c (t.strip isComment) = constrain c t := by
  induction h generalizing c with
  | @node label children here inside ih =>
    have hall : label.kind ∈ typeListKinds →
        constrainAll c (stripAll isComment children) = constrainAll c children := by
      intro hkind
      have hfold : (stripAll isComment (node label children).namedChildren).foldl constrain c =
          (node label children).namedChildren.foldl constrain c := by
        refine foldl_stripAll (fun d hd => ih d (List.mem_of_mem_filter hd)) ?_ c
        exact fun d hd hcomment => constrain_of_isComment hcomment (here.types hkind d hd hcomment)
      rw [← namedChildren_strip, ParseTree.namedChildren, children_strip] at hfold
      rw [constrainAll_eq, constrainAll_eq]
      exact hfold
    have htype : (node label (stripAll isComment children)).typeName? =
        (node label children).typeName? := rfl
    rw [strip, constrain, constrain]
    split <;> rename_i hkind
    · rfl
    · rfl
    · exact hall (by simp [hkind, typeListKinds])
    · exact hall (by simp [hkind, typeListKinds])
    · exact hall (by simp [hkind, typeListKinds])
    · rw [htype]

section Statement

variable {t : ParseTree} (h : t.Everywhere Undisturbed)

include h

theorem typeParameter?_strip : typeParameter? (t.strip isComment) = typeParameter? t := by
  have hconstraint : (((t.strip isComment).child? "constraint").bind firstNamed?).elim {}
        (constrain {}) =
      ((t.child? "constraint").bind firstNamed?).elim {} (constrain {}) := by
    rw [child?_strip h.here.nameless (by simp)]
    cases hc : t.child? "constraint" with
    | none => rfl
    | some c =>
      have hfield : c.field = "constraint" := by simpa using List.find?_some hc
      have hfirst := (h.find? hc).here.first (.inr (.inr hfield))
      rw [Option.map_some, Option.bind_some, Option.bind_some, firstNamed?_strip hfirst]
      cases hd : c.firstNamed? with
      | none => rfl
      | some d => exact constrain_strip ((h.find? hc).find? hd) {}
  simp only [typeParameter?, kind_strip, name_strip h.here.nameless,
    hconstraint]

theorem typeParameters_strip : typeParameters (t.strip isComment) = typeParameters t := by
  refine elim_filterMap_strip h.here.nameless (by simp) ?_ ?_
  · exact fun list hlist p hp => typeParameter?_strip ((h.find? hlist).namedChildren p hp)
  · intro p hcomment
    simp [typeParameter?, isComment_iff.mp hcomment]

theorem parameter?_strip : parameter? (t.strip isComment) = parameter? t := by
  rw [parameter?, kind_strip, child?_strip h.here.nameless (by simp), parameter?]
  cases t.child? "pattern" with
  | none => rfl
  | some pattern => simp only [Option.map_some, Option.bind_eq_bind, Option.bind_some, kind_strip,
      text_strip]

theorem parameters_strip : parameters (t.strip isComment) = parameters t := by
  refine elim_filterMap_strip h.here.nameless (by simp) ?_ ?_
  · exact fun list hlist p hp => parameter?_strip ((h.find? hlist).namedChildren p hp)
  · intro p hcomment
    simp [parameter?, isComment_iff.mp hcomment]

omit h in
theorem memberKind?_strip : memberKind? (t.strip isComment) = memberKind? t := by
  have haccessor : isAccessor (t.strip isComment) = isAccessor t := by
    have hfind : (stripAll isComment t.children).find? (fun c => c.kind == "get" || c.kind == "set")
        = (t.children.find? fun c => c.kind == "get" || c.kind == "set").map (strip isComment) := by
      refine find?_stripAll (fun c => by rw [kind_strip]) fun c hc => ?_
      have hkind := List.find?_some hc
      simp only [Bool.or_eq_true, beq_iff_eq] at hkind
      rcases hkind with hkind | hkind <;> simp [isComment, hkind]
    rw [isAccessor, isAccessor, children_strip, ← List.isSome_find?, ← List.isSome_find?, hfind,
      Option.isSome_map]
  simp only [memberKind?, kind_strip, haccessor]

omit h in
theorem memberVisibility_strip (name : ParseTree) :
    memberVisibility (name.strip isComment) (t.strip isComment) = memberVisibility name t := by
  have hmodifier : ((t.strip isComment).childOfKind? "accessibility_modifier").map text =
      (t.childOfKind? "accessibility_modifier").map text := by
    rw [childOfKind?_strip (fun c hc => by simp [isComment, hc])]
    cases t.childOfKind? "accessibility_modifier" <;> simp
  simp only [memberVisibility, kind_strip, hmodifier]

theorem member?_strip (pending : List TypeName) :
    member? pending (t.strip isComment) = member? pending t := by
  rw [member?, memberKind?_strip, child?_strip h.here.nameless (by simp), member?]
  cases memberKind? t with
  | none => rfl
  | some kind =>
    cases t.child? "name" with
    | none => rfl
    | some name =>
      simp only [Option.map_some, Option.bind_eq_bind, Option.bind_some, text_strip,
        memberVisibility_strip, decorators_strip h, typeParameters_strip h, parameters_strip h]

end Statement

/-- A comment among members is passed over, unless it takes the decorators of the next one. -/
theorem membersFrom_stripAll {ts : List ParseTree} (hts : ∀ t ∈ ts, t.Everywhere Undisturbed)
    (hchain : ts.IsChain fun a b => a.kind = "decorator" → isComment b = false)
    {pending : List TypeName}
    (hpending : pending ≠ [] → ∀ t, ts.head? = some t → isComment t = false) :
    membersFrom pending (stripAll isComment ts) = membersFrom pending ts := by
  induction ts generalizing pending with
  | nil => simp
  | cons t ts ih =>
    obtain ⟨ht, hts⟩ := List.forall_mem_cons.mp hts
    have hnext := @ih hts hchain.tail
    cases hc : isComment t with
    | true =>
      have hkind := isComment_iff.mp hc
      -- The comment would take what is pending, but no comment follows a decorator.
      have hempty : pending = [] := by
        by_contra hne
        simp [hpending hne t rfl] at hc
      have hnone : member? [] t = none := by
        simp [member?, memberKind?, hkind]
      subst hempty
      rw [stripAll_cons_pos hc, hnext (by simp), membersFrom, if_neg (by simp [hkind]), hnone]
      rfl
    | false =>
      rw [stripAll_cons_neg hc, membersFrom, membersFrom, kind_strip]
      split
      · -- From here on something is pending, so the next sibling must not be a comment.
        rename_i hkind
        rw [decoratorType?_strip ht hkind]
        apply hnext
        intro _ u hu
        cases ts with
        | nil => cases hu
        | cons v ts =>
          cases hu
          exact (List.isChain_cons_cons.mp hchain).1 hkind
      · rw [member?_strip ht, hnext (by simp)]

section Declaration

variable {t : ParseTree} (h : t.Everywhere Undisturbed)

include h

theorem inheritFrom_strip (header : Header) :
    inheritFrom header (t.strip isComment) = inheritFrom header t := by
  have hvalue : ((t.strip isComment).child? "value").bind typeName? =
      (t.child? "value").bind typeName? := by
    rw [child?_strip h.here.nameless (by simp), bind_typeName?_strip]
  rw [inheritFrom, inheritFrom, kind_strip, hvalue]
  split
  · rename_i hkind
    rw [typeList_strip_iff.mpr (h.here.types (by simp [hkind, typeListKinds]))]
  · rfl
  · rfl

theorem class?_strip (shown : Accessibility) (outer : List TypeName) :
    class? shown outer (t.strip isComment) = class? shown outer t := by
  have hclauses : ∀ header : Header,
      (((t.strip isComment).childOfKind? "class_heritage").elim [] ParseTree.namedChildren).foldl
        inheritFrom header =
      ((t.childOfKind? "class_heritage").elim [] ParseTree.namedChildren).foldl
        inheritFrom header := by
    intro header
    rw [childOfKind?_strip (fun c hc => by simp [isComment, hc])]
    cases hc : t.childOfKind? "class_heritage" with
    | none => rfl
    | some heritage =>
      rw [Option.map_some, Option.elim_some, Option.elim_some, namedChildren_strip]
      refine foldl_stripAll ?_ ?_ header
      · exact fun clause hmem => inheritFrom_strip ((h.find? hc).namedChildren clause hmem)
      · intro clause _ hcomment header
        simp [inheritFrom, isComment_iff.mp hcomment]
  have hmembers : ((t.strip isComment).child? "body").elim []
        (fun body => membersFrom [] body.namedChildren) =
      (t.child? "body").elim [] fun body => membersFrom [] body.namedChildren := by
    refine elim_child?_strip h.here.nameless (by simp) (fun body hbody => ?_) []
    have hfield : body.field = "body" := by simpa using List.find?_some hbody
    have hundisturbed := h.find? hbody
    rw [namedChildren_strip]
    exact membersFrom_stripAll hundisturbed.namedChildren (hundisturbed.here.members hfield)
      (by simp)
  simp only [class?, name_strip h.here.nameless, decorators_strip h,
    hclauses, typeParameters_strip h, hmembers]

theorem signature?_strip : signature? (t.strip isComment) = signature? t := by
  simp only [signature?, kind_strip, name_strip h.here.nameless,
    typeParameters_strip h, parameters_strip h]

theorem interface?_strip (shown : Accessibility) :
    interface? shown (t.strip isComment) = interface? shown t := by
  have hinterfaces : ((t.strip isComment).childOfKind? "extends_type_clause").elim [] typeList =
      (t.childOfKind? "extends_type_clause").elim [] typeList := by
    rw [childOfKind?_strip (fun c hc => by simp [isComment, hc])]
    cases hc : t.childOfKind? "extends_type_clause" with
    | none => rfl
    | some clause =>
      have hkind : clause.kind = "extends_type_clause" := by simpa using List.find?_some hc
      exact typeList_strip_iff.mpr ((h.find? hc).here.types (by simp [hkind, typeListKinds]))
  have hmembers : ((t.strip isComment).child? "body").elim []
        (fun body => body.namedChildren.filterMap signature?) =
      (t.child? "body").elim [] fun body => body.namedChildren.filterMap signature? := by
    refine elim_filterMap_strip h.here.nameless (by simp) ?_ ?_
    · exact fun body hbody m hm => signature?_strip ((h.find? hbody).namedChildren m hm)
    · intro m hcomment
      simp [signature?, isComment_iff.mp hcomment]
  simp only [interface?, name_strip h.here.nameless, hinterfaces,
    typeParameters_strip h, hmembers]

theorem enumMember?_strip : enumMember? (t.strip isComment) = enumMember? t := by
  have hname : (enumName? (t.strip isComment)).map text = (enumName? t).map text := by
    rw [enumName?, enumName?, kind_strip, child?_strip h.here.nameless (by simp)]
    split
    · cases t.child? "name" <;> simp
    · simp
    · simp
    · rfl
  have hread : ∀ u, enumMember? u = ((enumName? u).map text).map fun name =>
      (Declaration.ofKind .field (String.ofList (trimQuotes name.toList))).withVisibility
        .public := by
    intro u
    rw [enumMember?, Option.map_map]
    rfl
  rw [hread, hname, ← hread]

theorem enum?_strip (shown : Accessibility) :
    enum? shown (t.strip isComment) = enum? shown t := by
  have hmembers : ((t.strip isComment).child? "body").elim []
        (fun body => body.namedChildren.filterMap enumMember?) =
      (t.child? "body").elim [] fun body => body.namedChildren.filterMap enumMember? := by
    refine elim_filterMap_strip h.here.nameless (by simp) ?_ ?_
    · exact fun body hbody m hm => enumMember?_strip ((h.find? hbody).namedChildren m hm)
    · intro m hcomment
      simp [enumMember?, enumName?, isComment_iff.mp hcomment]
  simp only [enum?, name_strip h.here.nameless, hmembers]

theorem function?_strip (shown : Accessibility) :
    function? shown (t.strip isComment) = function? shown t := by
  simp only [function?, name_strip h.here.nameless,
    typeParameters_strip h, parameters_strip h]

theorem plainStatement?_strip (exported : Bool) (outer : List TypeName) :
    plainStatement? exported outer (t.strip isComment) = plainStatement? exported outer t := by
  simp only [plainStatement?, kind_strip, class?_strip h, interface?_strip h, enum?_strip h,
    function?_strip h]

end Declaration

theorem exportedStatement_eq (outer : List TypeName) (ts : List ParseTree) :
    exportedStatement outer ts =
      (ts.find? fun c => c.field == "declaration").elim [] (statement true outer) := by
  induction ts with
  | nil => simp [exportedStatement]
  | cons t ts ih =>
    rw [exportedStatement]
    split
    · rename_i hfield
      simp [hfield]
    · rename_i hfield
      simp [hfield, ih]

theorem spaceStatement_eq (exported : Bool) (ts : List ParseTree) :
    spaceStatement exported ts = (ts.find? named).elim [] fun c =>
      if isSpaceKind c.kind then statement exported [] c else [] := by
  induction ts with
  | nil => simp [spaceStatement]
  | cons t ts ih =>
    rw [spaceStatement]
    cases hnamed : t.named <;> simp [hnamed, ih]

theorem bodyStatements_eq (ts : List ParseTree) :
    bodyStatements ts =
      (ts.find? fun c => c.field == "body").elim [] fun c => statements false c.children := by
  induction ts with
  | nil => simp [bodyStatements]
  | cons t ts ih =>
    obtain ⟨label, children⟩ := t
    rw [bodyStatements]
    split
    · rename_i hfield
      simp [ParseTree.field, hfield]
    · rename_i hfield
      simp [ParseTree.field, hfield, ih]

theorem statement_eq (exported : Bool) (outer : List TypeName) (t : ParseTree) :
    statement exported outer t =
      if t.kind = "export_statement" then
        (t.child? "declaration").elim [] (statement true (decorators t))
      else if t.kind = "ambient_declaration" then statements exported t.children
      else if t.kind = "expression_statement" then
        t.firstNamed?.elim [] fun c =>
          if isSpaceKind c.kind then statement exported [] c else []
      else if isSpaceKind t.kind then
        (t.childText? "name").elim [] fun name =>
          Declaration.nested (spaceSegments name)
            ((t.child? "body").elim [] fun c => statements false c.children)
      else (plainStatement? exported outer t).toList := by
  cases t
  rw [statement, exportedStatement_eq, spaceStatement_eq, bodyStatements_eq]
  rfl

theorem statement_of_isComment {t : ParseTree} (h : isComment t = true) (exported : Bool)
    (outer : List TypeName) : statement exported outer t = [] := by
  simp [statement_eq, isSpaceKind, plainStatement?, isComment_iff.mp h]

theorem statements_stripAll {ts : List ParseTree} {exported : Bool}
    (hts : ∀ t ∈ ts, statement exported [] (t.strip isComment) = statement exported [] t) :
    statements exported (stripAll isComment ts) = statements exported ts := by
  induction ts with
  | nil => simp
  | cons t ts ih =>
    obtain ⟨ht, hts⟩ := List.forall_mem_cons.mp hts
    cases hc : isComment t with
    | true =>
      rw [stripAll_cons_pos hc, ih hts, statements, statement_of_isComment hc, ite_self]
      rfl
    | false => rw [stripAll_cons_neg hc, statements, named_strip, ht, ih hts, statements]

theorem declarations_strip {file : ParseTree} (h : file.Everywhere Undisturbed) :
    declarations (file.strip isComment) = declarations file := by
  suffices hboth : (∀ exported outer,
        statement exported outer (file.strip isComment) = statement exported outer file) ∧
      ∀ exported, statements exported (file.strip isComment).children =
        statements exported file.children from hboth.2 false
  induction h with
  | @node label children here inside ih =>
    have hstatements : ∀ exported,
        statements exported ((node label children).strip isComment).children =
          statements exported children := by
      intro exported
      rw [children_strip]
      exact statements_stripAll fun t ht => (ih t ht).1 exported []
    refine ⟨?_, hstatements⟩
    intro exported outer
    have hwhole : (node label children).Everywhere Undisturbed := .node here inside
    rw [statement_eq, statement_eq exported outer (node label children), kind_strip]
    split
    · rw [decorators_strip hwhole]
      exact elim_child?_strip here.nameless (by simp)
        (fun c hc => (ih c (List.mem_of_find?_eq_some hc)).1 true _) []
    split
    · exact hstatements exported
    split
    · rename_i hkind
      rw [firstNamed?_strip (here.first (.inr (.inl hkind)))]
      cases hc : (node label children).firstNamed? with
      | none => rfl
      | some c =>
        have hspace := (ih c (List.mem_of_find?_eq_some hc)).1 exported []
        simp only [Option.map_some, Option.elim_some, kind_strip, hspace]
    split
    · have hbody : (((node label children).strip isComment).child? "body").elim []
            (fun c => statements false c.children) =
          ((node label children).child? "body").elim [] fun c => statements false c.children :=
        elim_child?_strip here.nameless (by simp)
          (fun c hc => (ih c (List.mem_of_find?_eq_some hc)).2 false) []
      rw [name_strip here.nameless, hbody]
    · rw [plainStatement?_strip hwhole]

end DeclTree.TypeScript

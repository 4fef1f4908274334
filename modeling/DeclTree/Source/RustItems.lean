import DeclTree.Declaration
import DeclTree.FirstMatch
import DeclTree.ParseTree

/-!
# Declarations of Rust items

Structs, enums and traits are named types, functions are methods, and fields, variants, constants
and statics are fields. An `impl` block hands its members, and the trait it names, to the type it
is for, as long as that type is declared in the same module; it does so after all items have been
read, wherever it stands. Attributes are annotations, and derived traits count as interfaces.

A list of siblings is read with the named siblings before each of them at hand, the nearest first,
because attributes and comments stand before the item they belong to.
-/

namespace DeclTree.Rust

open ParseTree

/-- Visibility as written; only blanks inside the modifier do not count. -/
def visibility (t : ParseTree) : Accessibility :=
  match t.childOfKind? "visibility_modifier" with
  | none => .private
  | some modifier =>
    let written := modifier.text.toList.filter fun c => !Text.isBlank c
    if written = "pub".toList then .public
    else if written = "pub(self)".toList then .private
    else .internal

def isAttribute (t : ParseTree) : Bool := t.kind == "attribute_item"

def isComment (t : ParseTree) : Bool := t.kind == "line_comment" || t.kind == "block_comment"

/-- The attributes of an item among the named siblings before it, in the order of the text: those
from which only attributes and comments divide it. -/
def attributesAmong (before : List ParseTree) : List ParseTree :=
  ((before.takeWhile fun t => isAttribute t || isComment t).filter isAttribute).reverse

/-- The named trees among siblings, each with the named ones before it, the nearest first. -/
def withPreceding (before : List ParseTree) : List ParseTree → List (List ParseTree × ParseTree)
  | [] => []
  | t :: ts =>
    if t.named then (before, t) :: withPreceding (t :: before) ts else withPreceding before ts

def addInterface (h : Header) (type : TypeName) : Header :=
  if TypeName.listed h.interfaces type.canonical then h
  else { h with interfaces := h.interfaces ++ [type] }

def derivedTraits (arguments : ParseTree) : List TypeName :=
  let opened := arguments.text.toList.dropWhile (· == '(')
  let list := (opened.reverse.dropWhile (· == ')')).reverse
  (Text.splitAt ',' list).filterMap fun part => TypeName.parse? (Text.trim part)

def annotate (h : Header) (item : ParseTree) : Header :=
  match item.firstNamed? with
  | none => h
  | some inner =>
    match inner.firstNamed?.bind typeName? with
    | none => h
    | some type =>
      let h := { h with annotations := h.annotations ++ [type] }
      if type.name = "derive" && type.qualifier.isEmpty then
        ((inner.child? "arguments").elim [] derivedTraits).foldl addInterface h
      else h

/-- The types in a list of bounds. Lifetimes and removed bounds name none, and a higher-ranked bound
stands for the type inside it. -/
def boundTypes (bounds : ParseTree) : List TypeName :=
  bounds.namedChildren.filterMap fun bound =>
    match bound.kind with
    | "lifetime" => none
    | "removed_trait_bound" => none
    | "higher_ranked_trait_bound" => (bound.child? "type").bind typeName?
    | _ => bound.typeName?

structure Bounded where
  name : String
  bounds : List TypeName

/-- A parameter whose name and bounds are children under the given field and the field for bounds.
-/
def boundedBy (field : String) (t : ParseTree) : Option Bounded :=
  (t.childText? field).map fun name => ⟨name, (t.child? "bounds").elim [] boundTypes⟩

mutual

/-- The type parameter that an entry of a parameter list declares. Lifetimes and constants declare
none, and one with a default is what it is without. -/
def bounded? : ParseTree → Option Bounded
  | .node label children =>
    match label.kind with
    | "type_identifier" => some ⟨label.text, []⟩
    | "constrained_type_parameter" => boundedBy "left" (.node label children)
    | "type_parameter" => boundedBy "name" (.node label children)
    | "optional_type_parameter" => boundedName? children
    | _ => none

def boundedName? : List ParseTree → Option Bounded
  | [] => none
  | t :: ts => if t.field = "name" then bounded? t else boundedName? ts

end

/-- Adds the bounds of a `where` predicate to the parameter it is about. -/
def addPredicate (params : List Bounded) (predicate : ParseTree) : List Bounded :=
  match predicate.childText? "left", predicate.child? "bounds" with
  | some left, some bounds =>
    changeFirst (fun p => p.name == left)
      (fun p => { p with bounds := p.bounds ++ boundTypes bounds }) params
  | _, _ => params

def predicates (t : ParseTree) : List ParseTree :=
  (t.children.filter fun c => c.kind == "where_clause").flatMap namedChildren

/-- What bounds demand: `Copy` makes for values, `Default` for a constructor without parameters. -/
def constraintsOf (bounds : List TypeName) : Constraints :=
  let has := fun name => bounds.any fun b => b.name == name && b.arity == 0
  { valueType := has "Copy", parameterlessConstructor := has "Default", types := bounds }

def typeParameters (t : ParseTree) : List Declaration :=
  let params :=
    (t.child? "type_parameters").elim [] fun list => list.namedChildren.filterMap bounded?
  ((predicates t).foldl addPredicate params).map fun p =>
    .typeParameter p.name (constraintsOf p.bounds)

/-- What all items have in common: a name, a visibility, attributes and type parameters. -/
def declare? (kind : Kind) (before : List ParseTree) (t : ParseTree) : Option Declaration := do
  let name ← t.childText? "name"
  let header : Header :=
    (attributesAmong before).foldl annotate { kind, name, visibility := visibility t }
  pure (.node header (typeParameters t))

def field? (before : List ParseTree) (shown : Accessibility) (t : ParseTree) : Option Declaration :=
  (declare? .field before t).map (Declaration.withVisibility shown)

def parameter? (t : ParseTree) : Option Declaration :=
  if t.kind = "parameter" then
    (t.childText? "pattern").map fun pattern =>
      .ofKind .parameter (String.ofList (Text.dropLeadingAll "mut ".toList pattern.toList))
  else none

/-- The parameters of a function; the receiver is none of them. -/
def parameters (t : ParseTree) : List Declaration :=
  (t.child? "parameters").elim [] fun list => list.namedChildren.filterMap parameter?

def method? (before : List ParseTree) (shown : Accessibility) (t : ParseTree) :
    Option Declaration :=
  (declare? .method before t).map fun d => (d.withVisibility shown).addChildren (parameters t)

/-- The functions and constants in the body of a trait or an `impl` block; a visibility that is
imposed on them counts instead of the written one. -/
def members (imposed : Option Accessibility) (body : ParseTree) : List Declaration :=
  (withPreceding [] body.children).filterMap fun (before, t) =>
    let shown := imposed.getD (visibility t)
    match t.kind with
    | "function_item" => method? before shown t
    | "function_signature_item" => method? before shown t
    | "const_item" => field? before shown t
    | _ => none

def structFields (t : ParseTree) : List Declaration :=
  match t.child? "body" with
  | none => []
  | some body =>
    if body.kind = "field_declaration_list" then
      (withPreceding [] body.children).filterMap fun (before, f) =>
        if f.kind = "field_declaration" then field? before (visibility f) f else none
    else []

/-- The variants of an enum, which are as visible as can be. -/
def variants (t : ParseTree) : List Declaration :=
  (t.child? "body").elim [] fun body =>
    (withPreceding [] body.children).filterMap fun (before, v) =>
      if v.kind = "enum_variant" then field? before .public v else none

def struct? (before : List ParseTree) (t : ParseTree) : Option Declaration :=
  (declare? .struct before t).map (Declaration.addChildren (structFields t))

def enum? (before : List ParseTree) (t : ParseTree) : Option Declaration :=
  (declare? .enum before t).map (Declaration.addChildren (variants t))

def trait? (before : List ParseTree) (t : ParseTree) : Option Declaration :=
  let supertraits := (t.child? "bounds").elim [] boundTypes
  (declare? .interface before t).map fun d =>
    (d.mapHeader fun h => supertraits.foldl addInterface h).addChildren
      ((t.child? "body").elim [] (members (some .public)))

def plainItem? (before : List ParseTree) (t : ParseTree) : Option Declaration :=
  match t.kind with
  | "struct_item" => struct? before t
  | "enum_item" => enum? before t
  | "trait_item" => trait? before t
  | "function_item" => method? before (visibility t) t
  | "const_item" => field? before (visibility t) t
  | "static_item" => field? before (visibility t) t
  | _ => none

mutual

/-- The name of the type an `impl` block is for: the last segment of its path, without arguments. -/
def selfName? : ParseTree → Option String
  | .node label children =>
    match label.kind with
    | "type_identifier" => some label.text
    | "generic_type" => selfNameIn? children
    | "scoped_type_identifier" => (ParseTree.node label children).childText? "name"
    | _ => none

def selfNameIn? : List ParseTree → Option String
  | [] => none
  | t :: ts => if t.field = "type" then selfName? t else selfNameIn? ts

end

/-- What an `impl` block adds to its type: members, and the trait if it names one. The members of a
block that names a trait are as visible as can be. -/
def extend (block : ParseTree) (d : Declaration) : Declaration :=
  let interface := (block.child? "trait").bind typeName?
  let imposed := interface.map fun _ => Accessibility.public
  (d.mapHeader fun h => interface.toList.foldl addInterface h).addChildren
    ((block.child? "body").elim [] (members imposed))

/-- Hands an `impl` block to the last type of its name. -/
def attach (ds : List Declaration) (block : ParseTree) : List Declaration :=
  match selfNameIn? block.children with
  | none => ds
  | some name => changeLast (fun d => d.kind.isNamedType && d.name == name) (extend block) ds

def blocks (siblings : List ParseTree) : List ParseTree :=
  siblings.filter fun t => t.named && t.kind == "impl_item"

theorem mem_blocks {siblings : List ParseTree} {t : ParseTree} :
    t ∈ blocks siblings ↔ t ∈ siblings ∧ t.named = true ∧ t.kind = "impl_item" := by
  simp [blocks]

mutual

/-- The declarations of an item other than an `impl` block. A module without a body is declared by a
file of its own. -/
def item (before : List ParseTree) : ParseTree → List Declaration
  | .node label children =>
    if label.kind = "mod_item" then
      match bodyItems? children, (ParseTree.node label children).childText? "name" with
      | some ds, some name => [.space name ds]
      | _, _ => []
    else (plainItem? before (.node label children)).toList

/-- The declarations of sibling items, `impl` blocks not counted. -/
def itemsFrom (before : List ParseTree) : List ParseTree → List Declaration
  | [] => []
  | t :: ts =>
    if t.named then item before t ++ itemsFrom (t :: before) ts else itemsFrom before ts

def bodyItems? : List ParseTree → Option (List Declaration)
  | [] => none
  | .node label children :: ts =>
    if label.field = "body" then some ((blocks children).foldl attach (itemsFrom [] children))
    else bodyItems? ts

end

def items (siblings : List ParseTree) : List Declaration :=
  (blocks siblings).foldl attach (itemsFrom [] siblings)

def declarations (file : ParseTree) : List Declaration := items file.children

end DeclTree.Rust

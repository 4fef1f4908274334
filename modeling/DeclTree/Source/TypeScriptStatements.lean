import DeclTree.Namespaces
import DeclTree.ParseTree

/-!
# Declarations of TypeScript statements

Classes, interfaces, enums, functions and namespaces are declared by statements, possibly inside an
`export` or `declare`. Exported declarations are public and all others internal. Decorators are
annotations; those of a class member stand before it as siblings or inside it as children. A getter
and a setter of one name are one property.
-/

namespace DeclTree.TypeScript

open ParseTree

def shownIf (exported : Bool) : Accessibility := if exported then .public else .internal

/-- A text without the quotes at its ends. -/
def trimQuotes (cs : List Char) : List Char :=
  let isQuote := fun c => c == '"' || c == '\x27'
  ((cs.dropWhile isQuote).reverse.dropWhile isQuote).reverse

/-- The type a decorator names; a call names the function it calls. -/
def decoratorType? (decorator : ParseTree) : Option TypeName := do
  let expression ← decorator.firstNamed?
  if expression.kind = "call_expression" then (← expression.child? "function").typeName?
  else expression.typeName?

theorem decoratorType?_eq_some_iff {decorator : ParseTree} {type : TypeName} :
    decoratorType? decorator = some type ↔
      ∃ expression, decorator.firstNamed? = some expression ∧
        if expression.kind = "call_expression" then
          ∃ called, expression.child? "function" = some called ∧ called.typeName? = some type
        else expression.typeName? = some type := by
  simp only [decoratorType?, Option.bind_eq_bind, Option.bind_eq_some_iff]
  refine exists_congr fun expression => and_congr_right fun _ => ?_
  split <;> simp [Option.bind_eq_some_iff]

def decorators (t : ParseTree) : List TypeName :=
  (t.children.filter fun c => c.kind == "decorator").filterMap decoratorType?

mutual

/-- Adds to constraints what a type demands of an argument. -/
def constrain (c : Constraints) : ParseTree → Constraints
  | .node label children =>
    match label.kind with
    | "predefined_type" =>
      if label.text = "object" then { c with referenceType := true }
      else if ["number", "string", "boolean", "bigint", "symbol"].contains label.text then
        { c with valueType := true }
      else c
    | "constructor_type" => { c with parameterlessConstructor := true }
    | "union_type" => constrainAll c children
    | "intersection_type" => constrainAll c children
    | "parenthesized_type" => constrainAll c children
    | _ => { c with types := c.types ++ (ParseTree.node label children).typeName?.toList }

def constrainAll (c : Constraints) : List ParseTree → Constraints
  | [] => c
  | t :: ts => constrainAll (if t.named then constrain c t else c) ts

end

def typeParameter? (t : ParseTree) : Option Declaration :=
  if t.kind = "type_parameter" then
    (t.childText? "name").map fun name =>
      .typeParameter name (((t.child? "constraint").bind firstNamed?).elim {} (constrain {}))
  else none

def typeParameters (t : ParseTree) : List Declaration :=
  (t.child? "type_parameters").elim [] fun list => list.namedChildren.filterMap typeParameter?

/-- A parameter by its pattern, without the dots of a rest parameter. The type of `this` is none. -/
def parameter? (t : ParseTree) : Option Declaration :=
  if t.kind = "required_parameter" || t.kind = "optional_parameter" then do
    let pattern ← t.child? "pattern"
    if pattern.kind = "this" then none
    else
      some (.ofKind .parameter
        (String.ofList (Text.dropLeadingAll "...".toList pattern.text.toList)))
  else none

def parameters (t : ParseTree) : List Declaration :=
  (t.child? "parameters").elim [] fun list => list.namedChildren.filterMap parameter?

def typeList (clause : ParseTree) : List TypeName := clause.namedChildren.filterMap typeName?

def isAccessor (t : ParseTree) : Bool := t.children.any fun c => c.kind == "get" || c.kind == "set"

def memberKind? (t : ParseTree) : Option Kind :=
  match t.kind with
  | "method_definition" => some (if isAccessor t then .property else .method)
  | "method_signature" => some (if isAccessor t then .property else .method)
  | "abstract_method_signature" => some (if isAccessor t then .property else .method)
  | "public_field_definition" => some .field
  | _ => none

/-- Visibility of a member by its name, which may be private in itself, and its modifier. -/
def memberVisibility (name t : ParseTree) : Accessibility :=
  if name.kind = "private_property_identifier" then .private
  else
    match (t.childOfKind? "accessibility_modifier").map text with
    | some "private" => .private
    | some "protected" => .protected
    | _ => .public

/-- A member of a class, given the decorators that stand before it. -/
def member? (pending : List TypeName) (t : ParseTree) : Option Declaration := do
  let kind ← memberKind? t
  let name ← t.child? "name"
  let header : Header :=
    { kind, name := name.text, visibility := memberVisibility name t,
      annotations := pending ++ decorators t }
  pure (.node header (if kind = .method then typeParameters t ++ parameters t else []))

/-- The members of a class body, given the decorators seen since the last member. Whatever follows
decorators takes them, even if it is no member. -/
def membersFrom (pending : List TypeName) : List ParseTree → List Declaration
  | [] => []
  | t :: ts =>
    if t.kind = "decorator" then membersFrom (pending ++ (decoratorType? t).toList) ts
    else (member? pending t).toList ++ membersFrom [] ts

/-- Members without the properties whose name an earlier property has; `seen` are the names of
properties before them. -/
def pairAccessors (seen : List String) : List Declaration → List Declaration
  | [] => []
  | d :: ds =>
    if d.kind = .property then
      if seen.contains d.name then pairAccessors seen ds
      else d :: pairAccessors (d.name :: seen) ds
    else d :: pairAccessors seen ds

def inheritFrom (h : Header) (clause : ParseTree) : Header :=
  match clause.kind with
  | "implements_clause" => { h with interfaces := h.interfaces ++ typeList clause }
  | "extends_clause" => { h with base := (clause.child? "value").bind typeName? }
  | _ => h

def class? (shown : Accessibility) (outer : List TypeName) (t : ParseTree) :
    Option Declaration := do
  let name ← t.childText? "name"
  let header : Header :=
    { kind := .class, name, visibility := shown, annotations := outer ++ decorators t }
  let clauses := (t.childOfKind? "class_heritage").elim [] namedChildren
  let members := (t.child? "body").elim [] fun body => membersFrom [] body.namedChildren
  pure (.node (clauses.foldl inheritFrom header) (typeParameters t ++ pairAccessors [] members))

def signature? (t : ParseTree) : Option Declaration :=
  match t.kind, t.childText? "name" with
  | "method_signature", some name =>
    some (.node { kind := .method, name, visibility := .public } (typeParameters t ++ parameters t))
  | "property_signature", some name =>
    some (.node { kind := .property, name, visibility := .public } [])
  | _, _ => none

def interface? (shown : Accessibility) (t : ParseTree) : Option Declaration := do
  let name ← t.childText? "name"
  let interfaces := (t.childOfKind? "extends_type_clause").elim [] typeList
  let members := (t.child? "body").elim [] fun body => body.namedChildren.filterMap signature?
  pure (.node { kind := .interface, name, visibility := shown, interfaces }
    (typeParameters t ++ members))

/-- The node that names a member of an enum. -/
def enumName? (t : ParseTree) : Option ParseTree :=
  match t.kind with
  | "enum_assignment" => t.child? "name"
  | "property_identifier" => some t
  | "string" => some t
  | _ => none

def enumMember? (t : ParseTree) : Option Declaration :=
  (enumName? t).map fun name =>
    (Declaration.ofKind .field (String.ofList (trimQuotes name.text.toList))).withVisibility .public

def enum? (shown : Accessibility) (t : ParseTree) : Option Declaration :=
  (t.childText? "name").map fun name =>
    .node { kind := .enum, name, visibility := shown }
      ((t.child? "body").elim [] fun body => body.namedChildren.filterMap enumMember?)

def function? (shown : Accessibility) (t : ParseTree) : Option Declaration :=
  (t.childText? "name").map fun name =>
    .node { kind := .method, name, visibility := shown } (typeParameters t ++ parameters t)

def plainStatement? (exported : Bool) (outer : List TypeName) (t : ParseTree) :
    Option Declaration :=
  let shown := shownIf exported
  match t.kind with
  | "class_declaration" => class? shown outer t
  | "abstract_class_declaration" => class? shown outer t
  | "interface_declaration" => interface? shown t
  | "enum_declaration" => enum? shown t
  | "function_declaration" => function? shown t
  | "generator_function_declaration" => function? shown t
  | "function_signature" => function? shown t
  | _ => none

/-- The segments of the name of a namespace, which may be quoted. -/
def spaceSegments (name : String) : List String :=
  (Text.splitAt '.' (trimQuotes name.toList)).map fun part => String.ofList (Text.trim part)

def isSpaceKind (kind : String) : Bool := kind == "internal_module" || kind == "module"

mutual

/-- The declarations of a statement. Whether it is exported, and the decorators outside it, come
from the `export` around it. -/
def statement (exported : Bool) (outer : List TypeName) : ParseTree → List Declaration
  | .node label children =>
    let t := ParseTree.node label children
    if label.kind = "export_statement" then exportedStatement (decorators t) children
    else if label.kind = "ambient_declaration" then statements exported children
    else if label.kind = "expression_statement" then spaceStatement exported children
    else if isSpaceKind label.kind then
      (t.childText? "name").elim [] fun name =>
        Declaration.nested (spaceSegments name) (bodyStatements children)
    else (plainStatement? exported outer t).toList

def statements (exported : Bool) : List ParseTree → List Declaration
  | [] => []
  | t :: ts => (if t.named then statement exported [] t else []) ++ statements exported ts

def exportedStatement (outer : List TypeName) : List ParseTree → List Declaration
  | [] => []
  | t :: ts =>
    if t.field = "declaration" then statement true outer t else exportedStatement outer ts

/-- The declarations of the first named child, if it is a namespace. -/
def spaceStatement (exported : Bool) : List ParseTree → List Declaration
  | [] => []
  | t :: ts =>
    if t.named then if isSpaceKind t.kind then statement exported [] t else []
    else spaceStatement exported ts

def bodyStatements : List ParseTree → List Declaration
  | [] => []
  | .node label children :: ts =>
    if label.field = "body" then statements false children else bodyStatements ts

end

def declarations (file : ParseTree) : List Declaration := statements false file.children

end DeclTree.TypeScript

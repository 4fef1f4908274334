import DeclTree.Declaration.Constraints
import DeclTree.Declaration.Kind
import DeclTree.Declaration.Visibility

/-!
# Declaration trees

A declaration is a header, which says what it declares, and the declarations inside it. The root of
a tree is the unnamed global namespace. Interfaces of a header are those written at the declaration
until the tree is closed (see `DeclTree.Inheritance`), and from then on all it has.
-/

namespace DeclTree

/-- A name below a path; the empty path adds nothing to it. -/
def qualify (path name : String) : String := if path.isEmpty then name else path ++ "." ++ name

/-- What a declaration says of itself, apart from the declarations inside it. -/
structure Header where
  kind : Kind
  name : String
  visibility : Accessibility := .notApplicable
  annotations : List TypeName := []
  interfaces : List TypeName := []
  /-- The base class, whose interfaces are inherited. -/
  base : Option TypeName := none
  constraints : Option Constraints := none
  /-- Made by a compiler and never reported. -/
  synthetic : Bool := false
deriving Inhabited

/-- A declaration with the declarations inside it. -/
inductive Declaration where
  | node (header : Header) (children : List Declaration)
deriving Inhabited

namespace Declaration

def header : Declaration → Header
  | .node header _ => header

def children : Declaration → List Declaration
  | .node _ children => children

def kind (d : Declaration) : Kind := d.header.kind

def name (d : Declaration) : String := d.header.name

@[simp] theorem header_node (h : Header) (cs : List Declaration) : (node h cs).header = h := rfl

@[simp] theorem children_node (h : Header) (cs : List Declaration) :
    (node h cs).children = cs := rfl

@[simp] theorem kind_node (h : Header) (cs : List Declaration) : (node h cs).kind = h.kind := rfl

@[simp] theorem name_node (h : Header) (cs : List Declaration) : (node h cs).name = h.name := rfl

/-- A declaration of a kind and name with nothing else said of it. -/
def ofKind (kind : Kind) (name : String) : Declaration := .node { kind, name } []

def space (name : String) (children : List Declaration) : Declaration :=
  .node { kind := .namespace, name } children

/-- The unnamed namespace at the root of a tree. -/
def global (children : List Declaration) : Declaration := space "" children

def typeParameter (name : String) (constraints : Constraints) : Declaration :=
  .node { kind := .typeParameter, name, constraints := some constraints } []

/-- The same children below a changed header. -/
def mapHeader (f : Header → Header) : Declaration → Declaration
  | .node header children => .node (f header) children

def withVisibility (visibility : Accessibility) : Declaration → Declaration :=
  mapHeader fun h => { h with visibility }

/-- Adds an annotating type behind those already there. -/
def annotate (type : TypeName) : Declaration → Declaration :=
  mapHeader fun h => { h with annotations := h.annotations ++ [type] }

def implementing (type : TypeName) : Declaration → Declaration :=
  mapHeader fun h => { h with interfaces := h.interfaces ++ [type] }

def withBase (type : TypeName) : Declaration → Declaration :=
  mapHeader fun h => { h with base := some type }

def asSynthetic : Declaration → Declaration := mapHeader fun h => { h with synthetic := true }

def addChildren (more : List Declaration) : Declaration → Declaration
  | .node header children => .node header (children ++ more)

end Declaration

/-- Never reported: synthetic, or named with angle brackets around it like `<Module>`. -/
def Header.isSpecial (h : Header) : Bool :=
  h.synthetic ||
    match h.name.toList with
    | '<' :: c :: cs => (c :: cs).getLast? == some '>'
    | _ => false

namespace Declaration

def isSpecial (d : Declaration) : Bool := d.header.isSpecial

def typeParameters (d : Declaration) : List Declaration :=
  d.children.filter fun c => c.kind == .typeParameter

/-- The name with the names of the type parameters in angle brackets behind it, as it stands in a
qualified name. -/
def displayName (d : Declaration) : String :=
  match d.typeParameters with
  | [] => d.name
  | params => d.name ++ "<" ++ ", ".intercalate (params.map name) ++ ">"

end Declaration

end DeclTree

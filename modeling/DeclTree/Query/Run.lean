import DeclTree.Query

/-!
# Running queries

The walk over a tree. It starts below the root, enters what the table of kinds allows to stand where
it stands, skips special declarations with all that is inside them, and reports in pre-order. The
qualified name of a declaration is the path of all declarations around it and itself, each with its
type parameters; the namespace of a declaration is the qualified name of the namespaces it lies in.
-/

namespace DeclTree

/-- A declaration that was found, by its own name and its qualified name. -/
structure Entity where
  name : String
  fullName : String
deriving DecidableEq, Repr, Inhabited

/-- Where a declaration sits: the namespace around it and the qualified name of its parent, both
empty at the root. -/
structure Scope where
  space : String := ""
  path : String := ""
deriving DecidableEq, Repr

namespace Scope

/-- The qualified name of a declaration that sits here. -/
def fullName (s : Scope) (d : Declaration) : String := qualify s.path d.displayName

/-- Where the children of a declaration sit that sits here itself. -/
def enter (s : Scope) (d : Declaration) : Scope where
  space := if d.kind = .namespace then s.fullName d else s.space
  path := s.fullName d

end Scope

namespace Query

/-- What a declaration itself adds to the result. -/
def report (q : Query) (scope : Scope) (d : Declaration) : List Entity :=
  if q.includes d scope.space then [⟨d.name, scope.fullName d⟩] else []

def enters (q : Query) (parent : Kind) (d : Declaration) : Bool :=
  parent.mayContain d.kind && !d.isSpecial && q.visitable d

mutual

/-- What is found in a declaration below one of the given kind. -/
def find (q : Query) (parent : Kind) (scope : Scope) : Declaration → List Entity
  | .node header children =>
    let d := .node header children
    if q.enters parent d then
      q.report scope d ++ q.findAll header.kind (scope.enter d) children
    else []

def findAll (q : Query) (parent : Kind) (scope : Scope) : List Declaration → List Entity
  | [] => []
  | d :: ds => q.find parent scope d ++ q.findAll parent scope ds

end

def run (q : Query) (root : Declaration) : List Entity := q.findAll root.kind {} root.children

@[simp] theorem findAll_nil (q : Query) (parent : Kind) (scope : Scope) :
    q.findAll parent scope [] = [] := by
  simp [findAll]

@[simp] theorem findAll_cons (q : Query) (parent : Kind) (scope : Scope) (d : Declaration)
    (ds : List Declaration) :
    q.findAll parent scope (d :: ds) = q.find parent scope d ++ q.findAll parent scope ds := by
  simp [findAll]

end Query

end DeclTree

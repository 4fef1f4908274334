import DeclTree.Condition

/-!
# Queries

A query says which kinds of declarations to report and, for each aspect of a declaration, at most
one condition. It is put together in steps. A step replaces what an earlier one said of the same
aspect and leaves the others alone.
-/

namespace DeclTree

/-- Which declarations to report, and where to look for them. -/
structure Query where
  kinds : KindSet := .all
  name : Option TextCondition := none
  /-- On the path of the namespace around a declaration. -/
  scope : Option TextCondition := none
  visibility : Option VisibilityCondition := none
  generic : Option GenericCondition := none
  interfaces : Option TypesCondition := none
  annotations : Option TypesCondition := none
  /-- By kind, the test a declaration has to pass for the walk to enter it. -/
  visit : Kind → Option (Declaration → Bool) := fun _ => none

namespace Query

/-- Every declaration. -/
def all : Query := {}

def ofKinds (kinds : List Kind) : Query := { kinds := .ofList kinds }

def namespaces : Query := ofKinds [.namespace]

def classes : Query := ofKinds [.class]

def types : Query := ofKinds [.class, .struct, .enum, .interface]

def methods : Query := ofKinds [.method]

def members : Query := ofKinds [.method, .property, .field]

def parameters : Query := ofKinds [.parameter]

/-- One step in putting a query together. -/
inductive Step where
  | name (condition : TextCondition)
  | scope (condition : TextCondition)
  | visibility (condition : VisibilityCondition)
  | generic (condition : GenericCondition)
  | interfaces (condition : TypesCondition)
  | annotations (condition : TypesCondition)
  | kinds (kinds : List Kind)
  | visit (kind : Kind) (test : Declaration → Bool)

/-- Takes a step. -/
def apply (q : Query) : Step → Query
  | .name condition => { q with name := some condition }
  | .scope condition => { q with scope := some condition }
  | .visibility condition => { q with visibility := some condition }
  | .generic condition => { q with generic := some condition }
  | .interfaces condition => { q with interfaces := some condition }
  | .annotations condition => { q with annotations := some condition }
  | .kinds kinds => { q with kinds := .ofList kinds }
  | .visit kind test => { q with visit := fun k => if k = kind then some test else q.visit k }

/-- Takes steps one after another. -/
def applyAll (q : Query) (steps : List Step) : Query := steps.foldl apply q

/-- Whether a declaration passes the test for entering those of its kind. -/
def passesVisit (q : Query) (d : Declaration) : Bool := (q.visit d.kind).all fun test => test d

theorem passesVisit_iff {q : Query} {d : Declaration} :
    q.passesVisit d = true ↔ ∀ test, q.visit d.kind = some test → test d = true := by
  simp [passesVisit, Option.all_eq_true]

/-- Whether the walk enters a declaration: it passes the test for its kind and does not lie deeper
than all that is asked for. -/
def visitable (q : Query) (d : Declaration) : Bool :=
  q.passesVisit d && q.kinds.maxLevel.any fun deepest => decide (d.kind.level ≤ deepest)

/-- Whether a declaration in a namespace is reported once the walk has entered it. Only annotated
declarations meet a condition on annotations. -/
def includes (q : Query) (d : Declaration) (scope : String) : Bool :=
  q.kinds.contains d.kind &&
    (q.name.all fun c => c.accepts d.name) &&
    (q.visibility.all fun c => c.accepts d.header.visibility) &&
    (q.generic.all fun c => c.acceptsAll d.typeParameters) &&
    (q.scope.all fun c => c.accepts scope) &&
    (q.interfaces.all fun c => c.accepts d.header.interfaces) &&
    (q.annotations.all fun c => !d.header.annotations.isEmpty && c.accepts d.header.annotations)

@[simp] theorem applyAll_nil (q : Query) : q.applyAll [] = q := rfl

@[simp] theorem applyAll_cons (q : Query) (step : Step) (steps : List Step) :
    q.applyAll (step :: steps) = (q.apply step).applyAll steps := rfl

end Query

end DeclTree

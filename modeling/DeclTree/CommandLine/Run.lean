import DeclTree.CommandLine.Arguments
import DeclTree.Load

/-!
# What a command line asks for

A command line is a query and a path. Every filter on it is a step of the query, and all of them
have to hold. The first filter value that is refused decides the error, before the path is looked
at.
-/

namespace DeclTree.CommandLine.Arguments

def nameCondition (a : Arguments) : Except Error (Option TextCondition) :=
  match a.name, a.nameLike, a.nameMatches with
  | some name, _, _ => .ok (some (.equalTo name))
  | none, some part, _ =>
    .ok (some (if a.ignoreCase then .containsIgnoringCase part else .contains part))
  | none, none, some pattern => (TextCondition.ofPattern pattern a.ignoreCase).map some
  | none, none, none => .ok none

def scopeCondition (a : Arguments) : Option TextCondition :=
  (a.scope.map .equalTo).or (a.scopeLike.map .contains)

def visibilityCondition (a : Arguments) : Except Error (Option VisibilityCondition) :=
  if a.visibilities.isEmpty then .ok none
  else (a.visibilities.mapM Visibility.ofName).map fun vs => some (.oneOf vs)

def interfacesCondition (a : Arguments) : Except Error (Option TypesCondition) :=
  if a.implements.isEmpty then .ok none
  else (TypeName.parseAll a.implements).map fun ts => some (.includesAllOf ts)

/-- One of the annotations that are asked for, or any. -/
def annotationsCondition (a : Arguments) : Except Error (Option TypesCondition) :=
  if a.annotatedWith.isEmpty then .ok (if a.annotated then some .any else none)
  else (TypeName.parseAll a.annotatedWith).map fun ts => some (.includesOneOf ts)

/-- Constraints on every type parameter, or any. -/
def genericCondition (a : Arguments) : Except Error (Option GenericCondition) :=
  if a.constraints.isEmpty then .ok (if a.generic then some {} else none)
  else (a.constraints.mapM Constraint.ofName).map fun cs => some { constraint := some (.allOf cs) }

def query (a : Arguments) : Except Error Query := do
  let name ← a.nameCondition
  let visibility ← a.visibilityCondition
  let interfaces ← a.interfacesCondition
  let annotations ← a.annotationsCondition
  let generic ← a.genericCondition
  pure
    { kinds := if a.kinds.isEmpty then .all else .ofList a.kinds
      scope := a.scopeCondition
      name, visibility, interfaces, annotations, generic }

def options (a : Arguments) : Source.Options := ⟨a.depth, a.extensions⟩

def format (a : Arguments) : Report.Format := if a.json then .json else .plain

/-- The output of a command line, run in a directory. -/
def run (a : Arguments) (whole : FileTree) : Except Error String := do
  Load.process whole a.path (← a.query) a.options a.format

end DeclTree.CommandLine.Arguments

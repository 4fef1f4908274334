import DeclTree.Error
import DeclTree.Json.Writer
import DeclTree.Query.Run

/-!
# Reports

What a query found as text, either one qualified name a line or as a JSON record of the number of
results and the results. Results are sorted by qualified name, then by name, in the order of code
points, which is also that of encoded bytes.
-/

namespace DeclTree

namespace Entity

/-- The order of a report. -/
def before (a b : Entity) : Bool :=
  decide (a.fullName < b.fullName) ||
    (a.fullName == b.fullName && !decide (b.name < a.name))

def sort (entities : List Entity) : List Entity := entities.mergeSort before

def toJson (e : Entity) : Json := .fields [("name", .text e.name), ("full_name", .text e.fullName)]

/-- Both fields are required. -/
def ofJson (json : Json) : Except Error Entity :=
  match Json.record ["name", "full_name"] json with
  | some [some (.string (some name)), some (.string (some fullName))] => .ok ⟨name, fullName⟩
  | _ => .error .malformedJson

theorem sort_perm (entities : List Entity) : (sort entities).Perm entities :=
  List.mergeSort_perm entities before

end Entity

namespace Report

inductive Format where
  | plain
  | json
deriving DecidableEq, Repr

def plain (entities : List Entity) : String :=
  String.join (entities.map fun e => e.fullName ++ "\n")

/-- The number of results and the results. -/
def json (entities : List Entity) : Json :=
  .fields [("count", .nat entities.length), ("results", .array (entities.map Entity.toJson))]

end Report

/-- The text of a report on what was found, in whatever order it was found. -/
def report (format : Report.Format) (entities : List Entity) : String :=
  match format with
  | .plain => Report.plain (Entity.sort entities)
  | .json => (Report.json (Entity.sort entities)).pretty

end DeclTree

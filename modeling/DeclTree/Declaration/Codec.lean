import DeclTree.Declaration
import DeclTree.Json.Reader
import DeclTree.Json.Writer

/-!
# Declarations as JSON

The serialized form of a declaration tree. Writing leaves out what holds its default, except the
visibility; reading takes the members of an object in any order and ignores those it does not know,
takes a record also as an array of its fields, and accepts null only for a base and constraints.

Reading is given the number of arrays and objects that may still be opened. A value that is ignored
opens none of them, however deep it is. Text may nest `Declaration.textRoom` of them.
-/

namespace DeclTree

namespace TypeName

def toJson (t : TypeName) : Json := .text t.canonical

def ofJson? (json : Json) : Option TypeName :=
  match json with
  | .string (some text) => parse? text.toList
  | _ => none

/-- A list of types; the array counts as opened. -/
def listOfJson? (room : Nat) : Json → Option (List TypeName)
  | .array items => if room = 0 then none else items.mapM ofJson?
  | _ => none

/-- A type, or none where null is written. -/
def optionOfJson? : Json → Option (Option TypeName)
  | .null => some none
  | json => (ofJson? json).map some

end TypeName

namespace Constraints

def fieldNames : List String :=
  ["reference_type", "value_type", "parameterless_constructor", "constraint_types"]

/-- All four fields are written. -/
def toJson (c : Constraints) : Json :=
  .fields [("reference_type", .bool c.referenceType), ("value_type", .bool c.valueType),
    ("parameterless_constructor", .bool c.parameterlessConstructor),
    ("constraint_types", .array (c.types.map TypeName.toJson))]

/-- Constraints with `room` arrays and objects left to open; missing fields have their default. -/
def ofJson? : Nat → Json → Option Constraints
  | 0, _ => none
  | room + 1, json => do
    match ← Json.record fieldNames json with
    | [reference, value, constructor, types] => do
      let referenceType ← reference.elim (some false) Json.bool?
      let valueType ← value.elim (some false) Json.bool?
      let parameterlessConstructor ← constructor.elim (some false) Json.bool?
      let types ← types.elim (some []) (TypeName.listOfJson? room)
      pure { referenceType, valueType, parameterlessConstructor, types }
    | _ => none

/-- Constraints, or none where null is written. -/
def optionOfJson? (room : Nat) : Json → Option (Option Constraints)
  | .null => some none
  | json => (ofJson? room json).map some

end Constraints

namespace Accessibility

def ofJson? (room : Nat) (json : Json) : Option Accessibility := do
  ofTag? (← json.word? room)

end Accessibility

namespace Kind

def ofJson? (room : Nat) (json : Json) : Option Kind := do
  ofTag? (← json.word? room)

end Kind

namespace Declaration

/-- The arrays and objects that a text may have open at once. -/
def textRoom : Nat := 127

def fieldNames : List String :=
  ["kind", "name", "visibility", "annotations", "interfaces", "base", "constraints", "synthetic",
    "children"]

/-- The members that a header writes; all but the first three only when they say something. -/
def headerMembers (h : Header) : List (String × Json) :=
  [("kind", .text h.kind.tag), ("name", .text h.name), ("visibility", .text h.visibility.tag)] ++
    (if h.annotations.isEmpty then []
      else [("annotations", .array (h.annotations.map TypeName.toJson))]) ++
    (if h.interfaces.isEmpty then []
      else [("interfaces", .array (h.interfaces.map TypeName.toJson))]) ++
    (h.base.elim [] fun base => [("base", base.toJson)]) ++
    (h.constraints.elim [] fun constraints => [("constraints", constraints.toJson)]) ++
    (if h.synthetic then [("synthetic", .bool true)] else [])

mutual

def toJson : Declaration → Json
  | .node header children =>
    .fields (headerMembers header ++
      (if children.isEmpty then [] else [("children", .array (toJsonAll children))]))

def toJsonAll : List Declaration → List Json
  | [] => []
  | d :: ds => toJson d :: toJsonAll ds

end

/-- A header from its eight fields, with `room` arrays and objects left to open. -/
def headerOfFields? (room : Nat)
    (kind name visibility annotations interfaces base constraints synthetic : Option Json) :
    Option Header := do
  let kind ← Kind.ofJson? room (← kind)
  let name ← Json.text? (← name)
  let visibility ← visibility.elim (some .notApplicable) (Accessibility.ofJson? room)
  let annotations ← annotations.elim (some []) (TypeName.listOfJson? room)
  let interfaces ← interfaces.elim (some []) (TypeName.listOfJson? room)
  let base ← base.elim (some none) TypeName.optionOfJson?
  let constraints ← constraints.elim (some none) (Constraints.optionOfJson? room)
  let synthetic ← synthetic.elim (some false) Json.bool?
  pure { kind, name, visibility, annotations, interfaces, base, constraints, synthetic }

/-- A tree with `room` arrays and objects left to open: one for the declaration, and one more for
the array of its children. -/
def decode : Nat → Json → Option Declaration
  | 0, _ => none
  | room + 1, json => do
    match ← Json.record fieldNames json with
    | [kind, name, visibility, annotations, interfaces, base, constraints, synthetic,
        children] => do
      let header ← headerOfFields? room kind name visibility annotations interfaces base constraints
        synthetic
      let children ← match children with
        | none => some []
        | some (.array items) =>
          match room with
          | 0 => none
          | room + 1 => items.mapM (decode room)
        | some _ => none
      pure (.node header children)
    | _ => none

/-- The tree a JSON value is the form of, without a limit on nesting. -/
def ofJson (json : Json) : Except Error Declaration :=
  match decode json.nesting json with
  | some d => .ok d
  | none => .error .malformedJson

def ofText (text : String) : Except Error Declaration :=
  match (Json.parse? text).bind (decode textRoom) with
  | some d => .ok d
  | none => .error .malformedJson

def toText (d : Declaration) : String := d.toJson.compact

end Declaration

end DeclTree

import DeclTree.Declaration
import DeclTree.Pattern

/-!
# Conditions

Tests of one aspect of a declaration each: a text, a visibility, a set of types, or what a type
parameter demands. A condition is kept as data, so that two of them can be compared, and `accepts`
says what it means. A condition without a value, and one that offers an empty choice, accepts
nothing.
-/

namespace DeclTree

/-- A test of a name or of the path of a namespace. -/
inductive TextCondition where
  /-- Accepts nothing. -/
  | nothing
  | equalTo (value : String)
  | contains (value : String)
  /-- Containment once both texts are in lower case. -/
  | containsIgnoringCase (value : String)
  | oneOf (values : List String)
  /-- Some part of the text matches the pattern. -/
  | matching (pattern : Pattern)

namespace TextCondition

def accepts : TextCondition → String → Bool
  | .nothing, _ => false
  | .equalTo value, text => text == value
  | .contains value, text => Text.occursIn value.toList text.toList
  | .containsIgnoringCase value, text =>
    Text.occursIn (Text.lower value.toList) (Text.lower text.toList)
  | .oneOf values, text => values.contains text
  | .matching pattern, text => pattern.occursIn text

/-- The condition that a part of the text matches a pattern, which has to be one. -/
def ofPattern (pattern : String) (ignoreCase : Bool) : Except Error TextCondition :=
  (Pattern.compile pattern ignoreCase).map matching

end TextCondition

/-- A test of a recorded visibility: it is one of those listed. -/
structure VisibilityCondition where
  accepted : List Accessibility

namespace VisibilityCondition

def accepts (c : VisibilityCondition) (a : Accessibility) : Bool := c.accepted.contains a

def equalTo (v : Visibility) : VisibilityCondition := ⟨[v.accessibility]⟩

def oneOf (vs : List Visibility) : VisibilityCondition := ⟨vs.map Visibility.accessibility⟩

theorem accepts_oneOf {vs : List Visibility} {a : Accessibility} :
    (oneOf vs).accepts a = true ↔ ∃ v ∈ vs, v.accessibility = a := by
  simp [accepts, oneOf]

end VisibilityCondition

/-- A test of a list of types, by canonical names. -/
inductive TypesCondition where
  | any
  /-- At least one of the names is listed. -/
  | oneOf (names : List String)
  /-- All of the names are listed. -/
  | allOf (names : List String)

namespace TypesCondition

def accepts : TypesCondition → List TypeName → Bool
  | .any, _ => true
  | .oneOf names, types => names.any (TypeName.listed types)
  | .allOf names, types => !names.isEmpty && names.all (TypeName.listed types)

/-- The type is listed. -/
def includes (type : TypeName) : TypesCondition := .oneOf [type.canonical]

/-- The type with this text is listed, which has to be the text of a type. -/
def includesNamed (text : String) : Except Error TypesCondition :=
  (TypeName.parse text).map includes

def includesOneOf (types : List TypeName) : TypesCondition := .oneOf (TypeName.canonicals types)

def includesAllOf (types : List TypeName) : TypesCondition := .allOf (TypeName.canonicals types)

/-- A list that grows keeps what was accepted. -/
theorem accepts_mono (c : TypesCondition) {types more : List TypeName}
    (sub : ∀ name ∈ TypeName.canonicals types, name ∈ TypeName.canonicals more)
    (h : c.accepts types = true) : c.accepts more = true := by
  cases c with
  | any => rfl
  | oneOf names =>
    simp only [accepts, List.any_eq_true, TypeName.listed_iff] at h ⊢
    exact h.imp fun name hn => ⟨hn.1, sub name hn.2⟩
  | allOf names =>
    simp only [accepts, Bool.and_eq_true, List.all_eq_true, TypeName.listed_iff] at h ⊢
    exact ⟨h.1, fun name hn => sub name (h.2 name hn)⟩

end TypesCondition

/-- A test of the demands that a type parameter makes besides its types. -/
inductive ConstraintCondition where
  | oneOf (constraints : List Constraint)
  | allOf (constraints : List Constraint)

namespace ConstraintCondition

def accepts : ConstraintCondition → Constraints → Bool
  | .oneOf wanted, c => wanted.any fun w => w.holds c
  | .allOf wanted, c => !wanted.isEmpty && wanted.all fun w => w.holds c

def equalTo (constraint : Constraint) : ConstraintCondition := .oneOf [constraint]

end ConstraintCondition

/-- A test of one type parameter: of its demands, if there is such a part, and of its types. -/
structure GenericCondition where
  constraint : Option ConstraintCondition := none
  types : TypesCondition := .any

namespace GenericCondition

def accepts (c : GenericCondition) (constraints : Constraints) : Bool :=
  (c.constraint.all fun part => part.accepts constraints) && c.types.accepts constraints.types

/-- Every type parameter is accepted, and there is at least one. -/
def acceptsAll (c : GenericCondition) (parameters : List Declaration) : Bool :=
  !parameters.isEmpty && parameters.all fun p => c.accepts (p.header.constraints.getD {})

end GenericCondition

end DeclTree

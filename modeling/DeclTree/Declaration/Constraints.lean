import DeclTree.Text.Lowercase
import DeclTree.TypeName.Parser

/-!
# Constraints on type parameters

What a type parameter demands of its argument: three flags and a list of types. A caller names one
of the flags as a `Constraint`.
-/

namespace DeclTree

structure Constraints where
  referenceType : Bool := false
  valueType : Bool := false
  parameterlessConstructor : Bool := false
  types : List TypeName := []
deriving Inhabited

/-- A demand besides the constraint types. -/
inductive Constraint where
  | referenceType
  | valueType
  | parameterlessConstructor
deriving DecidableEq, Repr

namespace Constraint

/-- The constraints in the order of their ordinals. -/
def all : List Constraint := [.referenceType, .valueType, .parameterlessConstructor]

def holds : Constraint → Constraints → Bool
  | .referenceType, c => c.referenceType
  | .valueType, c => c.valueType
  | .parameterlessConstructor, c => c.parameterlessConstructor

def names : Constraint → List String
  | .referenceType => ["reference_type", "reference", "class"]
  | .valueType => ["value_type", "value", "struct"]
  | .parameterlessConstructor => ["parameterless_constructor", "new", "default"]

/-- Reads a constraint by one of its names: in any case, a hyphen or space standing for an
underscore. -/
def ofName (name : String) : Except Error Constraint :=
  let word := (Text.lower name.toList).map fun c => if c = '-' || c = ' ' then '_' else c
  match all.find? fun c => c.names.any fun n => n.toList = word with
  | some c => .ok c
  | none => .error (.invalidFilterValue .genericConstraint name)

def ofOrdinal (n : Int) : Except Error Constraint :=
  match n with
  | .ofNat i =>
    match all[i]? with
    | some c => .ok c
    | none => .error (.invalidFilterValue .genericConstraint (toString n))
  | .negSucc _ => .error (.invalidFilterValue .genericConstraint (toString n))

end Constraint

end DeclTree

import DeclTree.Error
import DeclTree.Text.Lowercase

/-!
# Visibility

How a tree records visibility, and the six names callers use for it. Every name stands for one
recorded visibility; a declaration to which visibility does not apply has none of them.
-/

namespace DeclTree

inductive Accessibility where
  | notApplicable
  | «private»
  | protectedAndInternal
  | «protected»
  | internal
  | protectedOrInternal
  | «public»
deriving DecidableEq, Repr, Inhabited

namespace Accessibility

def all : List Accessibility :=
  [.notApplicable, .private, .protectedAndInternal, .protected, .internal, .protectedOrInternal,
    .public]

/-- The word for a visibility in serialized trees. -/
def tag : Accessibility → String
  | .notApplicable => "not_applicable"
  | .private => "private"
  | .protectedAndInternal => "protected_and_internal"
  | .protected => "protected"
  | .internal => "internal"
  | .protectedOrInternal => "protected_or_internal"
  | .public => "public"

def ofTag? (word : String) : Option Accessibility := all.find? fun a => a.tag = word

theorem ofTag?_tag (a : Accessibility) : ofTag? a.tag = some a := by cases a <;> decide

end Accessibility

/-- Member visibility as callers name it. -/
inductive Visibility where
  | «private»
  | privateProtected
  | «protected»
  | internal
  | protectedInternal
  | «public»
deriving DecidableEq, Repr

namespace Visibility

/-- The visibilities in the order of their ordinals. -/
def all : List Visibility :=
  [.private, .privateProtected, .protected, .internal, .protectedInternal, .public]

def accessibility : Visibility → Accessibility
  | .private => .private
  | .privateProtected => .protectedAndInternal
  | .protected => .protected
  | .internal => .internal
  | .protectedInternal => .protectedOrInternal
  | .public => .public

/-- The name without separators. -/
def word : Visibility → String
  | .private => "private"
  | .privateProtected => "privateprotected"
  | .protected => "protected"
  | .internal => "internal"
  | .protectedInternal => "protectedinternal"
  | .public => "public"

/-- Reads a visibility as people write it: in any case, with spaces, hyphens and underscores
anywhere. -/
def ofName (name : String) : Except Error Visibility :=
  let letters := name.toList.filter fun c => c ≠ '_' && c ≠ '-' && c ≠ ' '
  match all.find? fun v => v.word.toList = Text.lower letters with
  | some v => .ok v
  | none => .error (.invalidFilterValue .visibility name)

def ofOrdinal (n : Int) : Except Error Visibility :=
  match n with
  | .ofNat i =>
    match all[i]? with
    | some v => .ok v
    | none => .error (.invalidFilterValue .visibility (toString n))
  | .negSucc _ => .error (.invalidFilterValue .visibility (toString n))

end Visibility

end DeclTree

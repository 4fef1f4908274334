import DeclTree.Error
import DeclTree.Text.Lowercase

/-!
# Kinds of declarations

The ten kinds, the four levels at which they sit in a tree, and the table that says which kinds may
stand below which. A type parameter is reached as soon as the declaring type is, but also below
methods; `Kind.reach` is the level a walk has to go down to in order to meet all of them.
-/

namespace DeclTree

inductive Kind where
  | «namespace»
  | «class»
  | struct
  | enum
  | interface
  | method
  | property
  | field
  | parameter
  | typeParameter
deriving DecidableEq, Repr, Inhabited

/-- Depth of a declaration in a tree, from the root downwards. -/
inductive Level where
  | «namespace»
  | namedType
  | member
  | parameter
deriving DecidableEq, Repr

namespace Level

def rank : Level → Nat
  | .namespace => 0
  | .namedType => 1
  | .member => 2
  | .parameter => 3

instance : LE Level := ⟨fun a b => a.rank ≤ b.rank⟩

instance (a b : Level) : Decidable (a ≤ b) := inferInstanceAs (Decidable (a.rank ≤ b.rank))

def deeper (a b : Level) : Level := if a ≤ b then b else a

end Level

namespace Kind

/-- Every kind, in the order in which sets of kinds are listed. -/
def all : List Kind :=
  [.namespace, .class, .struct, .enum, .interface, .method, .property, .field, .parameter,
    .typeParameter]

def isNamedType : Kind → Bool
  | .class | .struct | .enum | .interface => true
  | _ => false

def isMember : Kind → Bool
  | .method | .property | .field => true
  | _ => false

/-- The level at which a kind first appears. -/
def level : Kind → Level
  | .namespace => .namespace
  | .class | .struct | .enum | .interface | .typeParameter => .namedType
  | .method | .property | .field => .member
  | .parameter => .parameter

/-- The level down to which a walk has to go to meet every declaration of a kind. -/
def reach : Kind → Level
  | .typeParameter => .member
  | kind => kind.level

/-- The kinds that may stand directly below a kind. -/
def mayContain : Kind → Kind → Bool
  | .namespace, child => child == .namespace || child.isNamedType || child.isMember
  | .class, child | .struct, child | .enum, child | .interface, child =>
    child.isNamedType || child.isMember || child == .typeParameter
  | .method, child => child == .parameter || child == .typeParameter
  | _, _ => false

/-- The kinds whose declarations pass interfaces on to what derives from them. -/
def passesInterfaces : Kind → Bool
  | .interface | .class | .struct => true
  | _ => false

def tag : Kind → String
  | .namespace => "namespace"
  | .class => "class"
  | .struct => "struct"
  | .enum => "enum"
  | .interface => "interface"
  | .method => "method"
  | .property => "property"
  | .field => "field"
  | .parameter => "parameter"
  | .typeParameter => "type_parameter"

/-- Reads the word for a kind; type parameters also go without the underscore. -/
def ofTag? (word : String) : Option Kind :=
  if word = "typeparameter" then some .typeParameter else all.find? fun kind => kind.tag = word

/-- The word for a kind without its underscore, which is what spellings are compared with. -/
def plainWord (kind : Kind) : List Char := kind.tag.toList.filter (· ≠ '_')

/-- Reads a kind as people write it: in any case, with hyphens and underscores anywhere. -/
def ofName (name : String) : Except Error Kind :=
  let word := (Text.lower name.toList).filter fun c => c ≠ '-' && c ≠ '_'
  match all.find? fun kind => kind.plainWord = word with
  | some kind => .ok kind
  | none => .error (.invalidFilterValue .kind name)

theorem mem_all (kind : Kind) : kind ∈ all := by cases kind <;> decide

theorem ofTag?_tag (kind : Kind) : ofTag? kind.tag = some kind := by cases kind <;> decide

end Kind

structure KindSet where
  contains : Kind → Bool

namespace KindSet

def empty : KindSet := ⟨fun _ => false⟩

def all : KindSet := ⟨fun _ => true⟩

def insert (set : KindSet) (kind : Kind) : KindSet := ⟨fun k => k == kind || set.contains k⟩

def ofList (kinds : List Kind) : KindSet := kinds.foldl insert empty

/-- The members in their fixed order. -/
def toList (set : KindSet) : List Kind := Kind.all.filter set.contains

/-- The deepest level a walk has to reach to meet every kind of the set; none for the empty set. -/
def maxLevel (set : KindSet) : Option Level :=
  set.toList.foldl (fun deepest kind => some (match deepest with
    | none => kind.reach
    | some level => level.deeper kind.reach)) none

@[simp] theorem contains_empty (kind : Kind) : empty.contains kind = false := rfl

@[simp] theorem contains_all (kind : Kind) : all.contains kind = true := rfl

@[simp] theorem contains_insert (set : KindSet) (kind k : Kind) :
    (set.insert kind).contains k = (k == kind || set.contains k) := rfl

theorem contains_foldl_insert (kinds : List Kind) (set : KindSet) (k : Kind) :
    (kinds.foldl insert set).contains k = (kinds.contains k || set.contains k) := by
  induction kinds generalizing set with
  | nil => simp
  | cons kind kinds ih =>
    simp only [List.foldl_cons, ih, contains_insert, List.contains_cons]
    cases k == kind <;> cases kinds.contains k <;> rfl

@[simp] theorem contains_ofList (kinds : List Kind) (k : Kind) :
    (ofList kinds).contains k = kinds.contains k := by
  simp [ofList, contains_foldl_insert]

theorem ext_contains {s t : KindSet} (h : ∀ kind, s.contains kind = t.contains kind) :
    s = t := by
  cases s
  cases t
  congr
  exact funext h

theorem mem_toList {set : KindSet} {kind : Kind} :
    kind ∈ set.toList ↔ set.contains kind = true := by
  simp [toList, Kind.mem_all]

theorem ofList_toList (set : KindSet) : ofList set.toList = set := by
  apply ext_contains
  intro kind
  rw [contains_ofList, Bool.eq_iff_iff, List.contains_iff_mem, mem_toList]

end KindSet

end DeclTree

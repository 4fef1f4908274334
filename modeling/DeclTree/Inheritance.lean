import DeclTree.Declaration

/-!
# Inherited interfaces

Closing a tree gives every declaration the interfaces it inherits: those its interfaces and its
base extend, those these extend in turn, and so on, as far as the tree declares them. Types are
declared by their open name, so that the arguments of a reference do not matter for what it
resolves to.

A reference is followed where it was written: the namespace of the declaration that names it
decides what a relative name means. References that are still to be followed are kept on a stack.
An interface is put on it when its canonical name is new among the interfaces of the declaration, a
base when its canonical name is new among the bases met. Every round takes one reference off the
stack, so `Inheritance.rounds` of them are enough.
-/

namespace DeclTree

namespace Inheritance

/-- The namespace for the children of a declaration that lies in one itself. -/
def scopeBelow (scope : String) (h : Header) : String :=
  if h.kind = .namespace && !h.name.isEmpty then qualify scope h.name else scope

/-- A type declared with interfaces or a base, in the namespace where it is. -/
structure Site where
  scope : String
  name : String
  interfaces : List TypeName
  base : Option TypeName

/-- The qualified open name under which a site declares its type. -/
def Site.key (s : Site) : String := TypeName.canonical ⟨s.scope, s.name, []⟩

/-- The site that a header makes, if its kind passes interfaces on and there is something to pass.
-/
def siteOf (scope : String) (h : Header) : List Site :=
  if h.kind.passesInterfaces && (!h.interfaces.isEmpty || h.base.isSome) then
    [⟨scope, h.name, h.interfaces, h.base⟩]
  else []

mutual

def sites (scope : String) : Declaration → List Site
  | .node header children => siteOf scope header ++ sitesAll (scopeBelow scope header) children

def sitesAll (scope : String) : List Declaration → List Site
  | [] => []
  | d :: ds => sites scope d ++ sitesAll scope ds

end

/-- What a declared type passes on. Its references are followed from the namespace of its first
site. -/
structure Inherited where
  scope : String
  interfaces : List TypeName
  base : Option TypeName

/-- What is declared under a qualified open name: the interfaces of all its sites, and the first
base among them. -/
def declared? (index : List Site) (key : String) : Option Inherited :=
  match index.filter fun s => s.key == key with
  | [] => none
  | s :: ss =>
    some ⟨s.scope, (s :: ss).flatMap Site.interfaces, (s :: ss).findSome? Site.base⟩

/-- The qualified names under which a bare name is declared, each once. -/
def keysOf (index : List Site) (name : String) : List String :=
  ((index.filter fun s => s.name == name).map Site.key).eraseDups

/-- What is declared under a bare name, if there is only one qualified name for it. -/
def unambiguous? (index : List Site) (name : String) : Option Inherited :=
  match keysOf index name with
  | [key] => declared? index key
  | _ => none

/-- What a reference stands for in a namespace: the type of exactly that name, else the one of that
name relative to the namespace, else the only one with that bare name. -/
def resolve? (index : List Site) (scope : String) (type : TypeName) : Option Inherited :=
  (declared? index type.openName).or
    ((if scope.isEmpty then none else declared? index (scope ++ "." ++ type.openName)).or
      (unambiguous? index type.name))

/-- A reference to a type together with the namespace it is followed from. -/
structure Reference where
  type : TypeName
  scope : String

structure Closing where
  interfaces : List TypeName
  /-- Canonical names of the bases met on the way. -/
  bases : List String
  /-- References still to be followed, the next one first. -/
  pending : List Reference

namespace Closing

/-- Takes in an interface, unless one of its name is there already. -/
def addInterface (scope : String) (c : Closing) (type : TypeName) : Closing :=
  if TypeName.listed c.interfaces type.canonical then c
  else { c with interfaces := c.interfaces ++ [type], pending := ⟨type, scope⟩ :: c.pending }

/-- Takes note of a base, unless one of its name was met before. -/
def addBase (scope : String) (c : Closing) (type : TypeName) : Closing :=
  if c.bases.contains type.canonical then c
  else { c with bases := type.canonical :: c.bases, pending := ⟨type, scope⟩ :: c.pending }

def inherit (c : Closing) (inherited : Inherited) : Closing :=
  let c := inherited.interfaces.foldl (addInterface inherited.scope) c
  inherited.base.elim c (addBase inherited.scope c)

def step (index : List Site) (c : Closing) : Closing :=
  match c.pending with
  | [] => c
  | next :: rest =>
    let c := { c with pending := rest }
    (resolve? index next.scope next.type).elim c c.inherit

/-- Follows references until none is pending, for at most the given number of rounds. -/
def run (index : List Site) : Nat → Closing → Closing
  | 0, c => c
  | rounds + 1, c => if c.pending.isEmpty then c else run index rounds (c.step index)

/-- Nothing is known yet but what the declaration itself says. -/
def start (scope : String) (h : Header) : Closing where
  interfaces := h.interfaces
  bases := []
  pending := (h.interfaces ++ h.base.toList).reverse.map (⟨·, scope⟩)

end Closing

/-- The number of distinct canonical names of interfaces in an index. -/
def interfaceCount (index : List Site) : Nat :=
  (TypeName.canonicals (index.flatMap Site.interfaces)).eraseDups.length

/-- The number of distinct canonical names of bases in an index. -/
def baseCount (index : List Site) : Nat :=
  (TypeName.canonicals (index.filterMap Site.base)).eraseDups.length

/-- Rounds that are enough for closing a declaration. -/
def rounds (index : List Site) (h : Header) : Nat :=
  h.interfaces.length + 1 + interfaceCount index + baseCount index

/-- The header with all its interfaces, given what the tree declares. -/
def closeHeader (index : List Site) (scope : String) (h : Header) : Header :=
  { h with interfaces := ((Closing.start scope h).run index (rounds index h)).interfaces }

mutual

def closeIn (index : List Site) (scope : String) : Declaration → Declaration
  | .node header children =>
    .node (closeHeader index scope header)
      (closeAllIn index (scopeBelow scope header) children)

def closeAllIn (index : List Site) (scope : String) : List Declaration → List Declaration
  | [] => []
  | d :: ds => closeIn index scope d :: closeAllIn index scope ds

end

@[simp] theorem closeAllIn_eq_map (index : List Site) (scope : String) (ds : List Declaration) :
    closeAllIn index scope ds = ds.map (closeIn index scope) := by
  induction ds with
  | nil => simp [closeAllIn]
  | cons d ds ih => simp [closeAllIn, ih]

@[simp] theorem sitesAll_eq_flatMap (scope : String) (ds : List Declaration) :
    sitesAll scope ds = ds.flatMap (sites scope) := by
  induction ds with
  | nil => simp [sitesAll]
  | cons d ds ih => simp [sitesAll, ih]

end Inheritance

/-- The tree with the interfaces that every declaration inherits. -/
def Declaration.close (root : Declaration) : Declaration :=
  Inheritance.closeIn (Inheritance.sites "" root) "" root

end DeclTree

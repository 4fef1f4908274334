import DeclTree.Proofs.Inheritance.Idempotence

/-!
# What closing leaves alone

A closed tree is the tree itself with longer lists of interfaces. Whatever else stands in a header
is as before, and so are the children and their order. What a list has behind its old end are types
that some class, struct or interface of the tree has written among its own interfaces, with
canonical names that differ from each other and from all before. A declaration that says nothing of
parents gets none.

The loop keeps this as one invariant, `Closing.Fresh`, and every declaration of the tree is closed
by that loop with the index of the whole tree.
-/

open DeclTree.TypeName

namespace DeclTree

namespace Inheritance

/-- A type is written among the interfaces of a class, struct or interface of a tree. -/
def Provides (root : Declaration) (t : TypeName) : Prop :=
  ∃ scope n, Lies "" root scope n ∧ (n.kind = .class ∨ n.kind = .struct ∨ n.kind = .interface) ∧
    t ∈ n.header.interfaces

/-- What a declaration with this header may get behind its interfaces in a tree. -/
structure Addition (root : Declaration) (header : Header) (more : List TypeName) : Prop where
  distinct : (canonicals more).Nodup
  new : ∀ name ∈ canonicals more, name ∉ canonicals header.interfaces
  provided : ∀ t ∈ more, Provides root t
  nothing : header.interfaces = [] → header.base = none → more = []

/-- The second declaration is the first with additions to interfaces, in it and in everything inside
it. -/
inductive Enlarged (root : Declaration) : Declaration → Declaration → Prop
  | node {header : Header} {more : List TypeName} {children others : List Declaration}
      (own : Addition root header more) (inside : List.Forall₂ (Enlarged root) children others) :
      Enlarged root (.node header children)
        (.node { header with interfaces := header.interfaces ++ more } others)

theorem eq_of_passesInterfaces {kind : Kind} (h : kind.passesInterfaces = true) :
    kind = .class ∨ kind = .struct ∨ kind = .interface := by
  cases kind <;> simp_all [Kind.passesInterfaces]

theorem provides_of_mem_sites {root : Declaration} {t : TypeName}
    (h : t ∈ (sites "" root).flatMap Site.interfaces) : Provides root t := by
  obtain ⟨s, hs, ht⟩ := List.mem_flatMap.mp h
  obtain ⟨⟨place, scope, n, hplace, hkind, rfl⟩, -⟩ := mem_sites.mp hs
  exact ⟨scope, n, ⟨place, hplace⟩, eq_of_passesInterfaces hkind, ht⟩

theorem exists_addition_closeHeader (root : Declaration) (scope : String) (header : Header) :
    ∃ more, closeHeader (sites "" root) scope header =
        { header with interfaces := header.interfaces ++ more } ∧
      Addition root header more := by
  obtain ⟨more, hmore, hfresh⟩ := Closing.run_start_fresh (sites "" root) scope header
    (rounds (sites "" root) header)
  have hclose : closeHeader (sites "" root) scope header =
      { header with interfaces := header.interfaces ++ more } := by
    rw [closeHeader, hmore]
  refine ⟨more, hclose, hfresh.distinct, hfresh.new, ?_, ?_⟩
  · intro t ht
    exact provides_of_mem_sites (hfresh.written t ht)
  · intro hinterfaces hbase
    have hempty := closeHeader_of_empty hinterfaces hbase (sites "" root) scope
    rw [hclose] at hempty
    exact (List.append_eq_nil_iff.mp hempty).2

theorem enlarged_closeIn (root : Declaration) (scope : String) (d : Declaration) :
    Enlarged root d (closeIn (sites "" root) scope d) := by
  induction d using Declaration.induction generalizing scope with
  | node header children ih =>
    obtain ⟨more, hclose, hown⟩ := exists_addition_closeHeader root scope header
    rw [closeIn, closeAllIn_eq_map, hclose]
    refine .node hown ?_
    rw [List.forall₂_map_right_iff, List.forall₂_same]
    intro c hc
    exact ih c hc (scopeBelow scope header)

/-- Closing a tree only enlarges lists of interfaces, by distinct new types that are written in the
tree. -/
theorem close_only_enlarges (root : Declaration) : Enlarged root root root.close :=
  enlarged_closeIn root "" root

end Inheritance

end DeclTree

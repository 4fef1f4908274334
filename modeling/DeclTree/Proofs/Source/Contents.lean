import DeclTree.Proofs.Namespaces.Contents
import DeclTree.Proofs.Source.Spaces

/-!
# What files contribute

Every declaration of a file that can be read comes into the tree once, at the path of the file
continued by the namespaces around the declaration in the file. The tree has nothing besides, so
neither the order of the files nor those that cannot be read make a difference to what lies where.
-/

namespace DeclTree.Source

open Declaration

/-- What a file has to put at a path of namespaces, which the path of the file begins. -/
def contributed (f : FoundFile) (path : List String) : Multiset Declaration :=
  (found? f).elim 0 fun ds =>
    (path.dropPrefix? (segments f.names)).elim 0 fun inner => lyingAt inner ds

/-- A path of namespaces that a file has: its own, continued by namespaces in the file. -/
def Opens (f : FoundFile) (path : List String) : Prop :=
  ∃ ds inner place, found? f = some ds ∧ path = segments f.names ++ inner ∧
    SpaceAt (.global ds) inner place

theorem lyingAt_forest (files : List FoundFile) (path : List String) :
    lyingAt path (forest files) = (files.map fun f => contributed f path).sum := by
  induction files with
  | nil => simp [forest]
  | cons f files ih =>
    have hfile : lyingAt path ((found? f).elim [] (nested (segments f.names))) =
        contributed f path := by
      rw [contributed]
      cases found? f with
      | none => exact lyingAt_nil path
      | some ds => exact lyingAt_nested (segments f.names) path ds
    rw [forest, List.flatMap_cons, lyingAt_append, hfile, ← forest, ih, List.map_cons,
      List.sum_cons]

theorem lyingAt_tree (files : List FoundFile) (path : List String) :
    lyingAt path (tree files).children = (files.map fun f => contributed f path).sum := by
  rw [tree_eq, global, space, children_node, lyingAt_mergeAll, lyingAt_nil, zero_add,
    lyingAt_forest]

/-- A file has a path or one of its continuations exactly when it brings the path with it. -/
theorem exists_opens_iff {f : FoundFile} {path : List String} (hpath : path ≠ []) :
    (∃ more, Opens f (path ++ more)) ↔
      (firstBlock path ((found? f).elim [] (nested (segments f.names)))).isSome := by
  cases hfound : found? f with
  | none => simp [Opens, hfound, firstBlock_eq_none_of_nil hpath]
  | some ds =>
    have hblock : ∀ inner, (∃ place, SpaceAt (.global ds) inner place) ↔
        (firstBlock inner ds).isSome := fun inner => exists_spaceAt_iff
    simp only [Option.elim_some, isSome_firstBlock_nested, Opens, hfound, Option.some.injEq,
      exists_and_left, exists_eq_left', hblock]

theorem exists_spaceAt_tree_iff (files : List FoundFile) {path : List String} (hpath : path ≠ []) :
    (∃ place, SpaceAt (tree files) path place) ↔
      ∃ f ∈ files, ∃ more, Opens f (path ++ more) := by
  have hforest : (firstBlock path (forest files)).isSome ↔
      ∃ f ∈ files, ∃ more, Opens f (path ++ more) := by
    induction files with
    | nil => simp [forest, firstBlock_eq_none_of_nil hpath]
    | cons f files ih =>
      rw [forest, List.flatMap_cons, firstBlock_append hpath, Option.isSome_or, Bool.or_eq_true,
        ← forest, ih, ← exists_opens_iff hpath]
      simp only [List.mem_cons, exists_eq_or_imp]
  rw [exists_spaceAt_iff, ← hforest, tree_eq, global, space, children_node,
    Option.isSome_iff_ne_none, Option.isSome_iff_ne_none, ne_eq, firstBlock_mergeAll_eq_none,
    and_iff_right (firstBlock_eq_none_of_nil hpath)]

/-- A file that cannot be read leaves the tree as it is. -/
theorem tree_filter_found (files : List FoundFile) :
    tree (files.filter fun f => (found? f).isSome) = tree files := by
  have hforest : forest (files.filter fun f => (found? f).isSome) = forest files := by
    induction files with
    | nil => rfl
    | cons f files ih =>
      rw [forest, forest] at ih ⊢
      cases hfound : found? f with
      | none => simp [hfound, ih]
      | some ds => simp [hfound, ih]
  rw [tree_eq, tree_eq, hforest]

/-- At every path of namespaces there lies in the tree of files what the files contribute there, and
the paths are those of the files. Files that cannot be read make no difference, nor does the order
of the files to what lies where. -/
theorem tree_holds_contributions (files : List FoundFile) (path : List String) :
    lyingAt path (tree files).children = (files.map fun f => contributed f path).sum ∧
      ((∃ place, SpaceAt (tree files).close path place) ↔
        path = [] ∨ ∃ f ∈ files, ∃ more, Opens f (path ++ more)) ∧
      tree files = tree (files.filter fun f => (found? f).isSome) ∧
      ∀ other : List FoundFile, other.Perm files →
        lyingAt path (tree other).children = lyingAt path (tree files).children := by
  refine ⟨lyingAt_tree files path, ?_, (tree_filter_found files).symm, ?_⟩
  · simp only [close, spaceAt_closeIn]
    by_cases hpath : path = []
    · exact iff_of_true ⟨[], spaceAt_nil.mpr hpath⟩ (.inl hpath)
    · rw [exists_spaceAt_tree_iff files hpath, or_iff_right hpath]
  · intro other hperm
    rw [lyingAt_tree, lyingAt_tree]
    exact (hperm.map _).sum_eq

end DeclTree.Source

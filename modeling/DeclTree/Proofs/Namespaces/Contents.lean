import DeclTree.Proofs.Namespaces.Places
import Mathlib.Algebra.BigOperators.Group.Multiset.Basic

/-!
# What lies at a path of namespaces

A path of namespaces may lead to several places, and what lies at it is gathered from all of them.
Seen this way, a merge adds up: at every path there lies afterwards what lay there before together
with what was merged, each declaration as often as it came. The order of declarations is not kept,
since a namespace that is folded into an earlier one has its children moved to the front.

`lyingAt` looks through namespaces only and takes every other declaration whole.
-/

namespace DeclTree

namespace Declaration

/-- The declarations other than namespaces that stand directly inside chains of namespaces with
these names. -/
def lyingAt : List String → List Declaration → Multiset Declaration
  | [], ds => ↑(ds.filter fun d => d.kind ≠ .namespace)
  | x :: path, ds => (ds.map fun d => if isSpace x d then lyingAt path d.children else 0).sum

@[simp] theorem lyingAt_nil (path : List String) : lyingAt path [] = 0 := by
  cases path <;> rfl

theorem lyingAt_append (path : List String) (ds es : List Declaration) :
    lyingAt path (ds ++ es) = lyingAt path ds + lyingAt path es := by
  cases path <;> simp [lyingAt]

theorem lyingAt_cons (path : List String) (d : Declaration) (ds : List Declaration) :
    lyingAt path (d :: ds) = lyingAt path [d] + lyingAt path ds :=
  lyingAt_append path [d] ds

theorem lyingAt_nil_space {d : Declaration} (h : d.kind = .namespace) : lyingAt [] [d] = 0 := by
  simp [lyingAt, h]

theorem lyingAt_cons_singleton (x : String) (path : List String) (d : Declaration) :
    lyingAt (x :: path) [d] = if isSpace x d then lyingAt path d.children else 0 := by
  simp [lyingAt]

/-- A namespace folded into one of its name adds what lies in it, once its children are known to. -/
theorem lyingAt_folded {d e : Declaration} (hkind : d.kind = .namespace)
    (hspace : isSpace d.name e = true)
    (hchildren : ∀ path, lyingAt path (mergeAll e.children d.children) =
      lyingAt path e.children + lyingAt path d.children) (path : List String) :
    lyingAt path [.node e.header (mergeAll e.children d.children)] =
      lyingAt path [e] + lyingAt path [d] := by
  have hekind : e.kind = .namespace := (isSpace_iff.mp hspace).1
  cases path with
  | nil =>
    have hfolded : (node e.header (mergeAll e.children d.children)).kind = .namespace := hekind
    rw [lyingAt_nil_space hfolded, lyingAt_nil_space hekind, lyingAt_nil_space hkind, add_zero]
  | cons x path =>
    simp only [lyingAt_cons_singleton, isSpace_node_header, children_node,
      isSpace_eq_of_isSpace_name hkind hspace x]
    split
    · exact hchildren path
    · exact (add_zero 0).symm

/-- Merging loses nothing, repeats nothing and moves nothing to another path. -/
theorem lyingAt_mergeAll (siblings ds : List Declaration) (path : List String) :
    lyingAt path (mergeAll siblings ds) = lyingAt path siblings + lyingAt path ds := by
  induction siblings, ds using mergeAll_induction generalizing path with
  | nil siblings => simp
  | behind siblings d ds _ hmerge ih =>
    rw [mergeAll_cons, hmerge, ih, lyingAt_append, lyingAt_cons path d ds, add_assoc]
  | inside front e rest d ds hkind hspace hmerge ihChildren ih =>
    rw [mergeAll_cons, hmerge, ih, lyingAt_append, lyingAt_cons path _ rest,
      lyingAt_folded hkind hspace ihChildren, lyingAt_append, lyingAt_cons path e rest,
      lyingAt_cons path d ds]
    ac_rfl

/-- Inside nested namespaces lies at the rest of a path what lay there by itself. -/
theorem lyingAt_nested (segments path : List String) (ds : List Declaration) :
    lyingAt path (nested segments ds) =
      (path.dropPrefix? segments).elim 0 fun inner => lyingAt inner ds := by
  induction segments generalizing path with
  | nil => simp [nested]
  | cons segment segments ih =>
    cases path with
    | nil => rfl
    | cons x path =>
      rw [nested, lyingAt_cons_singleton, List.dropPrefix?]
      by_cases hx : x = segment
      · simp [hx, isSpace, space, ih]
      · simp [hx, isSpace, space, Ne.symm hx]

/-! ## Paths that exist -/

theorem exists_spaceAt_iff {root : Declaration} {path : List String} :
    (∃ place, SpaceAt root path place) ↔ (firstBlock path root.children).isSome := by
  induction path generalizing root with
  | nil => simpa using ⟨[], spaceAt_nil.mpr rfl⟩
  | cons x path ih =>
    rw [firstBlock, List.isSome_findSome?, List.any_eq_true]
    constructor
    · rintro ⟨_ | ⟨i, place⟩, hplace⟩
      · cases spaceAt_nil.mp hplace
      · obtain ⟨c, rest, hc, hkind, hpath, hbelow⟩ := spaceAt_cons.mp hplace
        cases hpath
        refine ⟨c, List.mem_of_getElem? hc, ?_⟩
        rw [if_pos (isSpace_iff.mpr ⟨hkind, rfl⟩)]
        exact ih.mp ⟨place, hbelow⟩
    · rintro ⟨c, hc, hfound⟩
      split at hfound
      · rename_i hspace
        obtain ⟨hkind, rfl⟩ := isSpace_iff.mp hspace
        obtain ⟨place, hplace⟩ := ih.mpr hfound
        obtain ⟨i, hi⟩ := List.getElem?_of_mem hc
        exact ⟨i :: place, spaceAt_cons.mpr ⟨c, path, hi, hkind, rfl, hplace⟩⟩
      · cases hfound

theorem isSome_firstBlock_of_append {path more : List String} {ds : List Declaration}
    (h : (firstBlock (path ++ more) ds).isSome) : (firstBlock path ds).isSome := by
  induction path generalizing ds with
  | nil => rfl
  | cons x path ih =>
    rw [List.cons_append, firstBlock, List.isSome_findSome?, List.any_eq_true] at h
    obtain ⟨d, hd, hfound⟩ := h
    rw [firstBlock, List.isSome_findSome?, List.any_eq_true]
    refine ⟨d, hd, ?_⟩
    split at hfound
    · rename_i hspace
      rw [if_pos hspace]
      exact ih hfound
    · cases hfound

/-- Nested namespaces have the paths on the way to what is inside them, and no others. -/
theorem isSome_firstBlock_nested {segments path : List String} {ds : List Declaration} :
    (firstBlock path (nested segments ds)).isSome ↔
      ∃ more inner, path ++ more = segments ++ inner ∧ (firstBlock inner ds).isSome := by
  induction segments generalizing path with
  | nil =>
    constructor
    · exact fun h => ⟨[], path, List.append_nil path, h⟩
    · rintro ⟨more, inner, hpath, h⟩
      rw [List.nil_append] at hpath
      exact isSome_firstBlock_of_append (hpath ▸ h)
  | cons segment segments ih =>
    cases path with
    | nil =>
      refine iff_of_true rfl ⟨segment :: segments, [], ?_, rfl⟩
      rw [List.nil_append, List.append_nil]
    | cons x path =>
      have hspace : isSpace x (space segment (nested segments ds)) = true ↔ x = segment := by
        simpa [isSpace_iff, space] using eq_comm
      rw [nested, firstBlock_singleton]
      by_cases hx : x = segment
      · rw [if_pos (hspace.mpr hx), space, children_node, ih]
        simp only [List.cons_append, List.cons.injEq, hx, true_and]
      · rw [if_neg (mt hspace.mp hx)]
        simp only [List.cons_append, List.cons.injEq, hx, false_and, exists_false,
          Option.isSome_none, Bool.false_eq_true]

end Declaration

end DeclTree

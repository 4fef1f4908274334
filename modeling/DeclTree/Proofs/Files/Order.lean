import DeclTree.Files.Order
import DeclTree.Proofs.Files.Reach
import Mathlib

/-!
# The order of a walk

In a tree that is in order a walk meets files in the order of their names, compared one by one from
the start of the walk. So it meets none twice, and options do not change which of two files comes
first.
-/

namespace DeclTree

namespace FileTree

variable {whole t : FileTree} {entries : List (String × FileTree)}

theorem Ordered.get? (h : whole.Ordered) {names : List String}
    (ht : get? names whole = some t) : t.Ordered := by
  induction names generalizing whole with
  | nil =>
    cases ht
    exact h
  | cons name names ih =>
    obtain ⟨u, hu, ht⟩ := Option.bind_eq_some_iff.mp ht
    obtain ⟨front, back, hentries, -⟩ := List.lookup_eq_some_iff.mp hu
    have hmem : (name, u) ∈ whole.entries := by simp [hentries]
    exact ih (h.of_mem_entries hmem) ht

/-- If the files at each entry come in order, so do all of them: those at an entry share its name,
and the names of the entries go up. -/
theorem pairwise_filesIn (hnames : (entries.map Prod.fst).Pairwise (· < ·))
    {levels : List IgnoreLevel} {place : List String} {reach : Reach}
    (hat : ∀ e ∈ entries, (filesAt whole levels place reach e.1 e.2).Pairwise
      fun f g => f.names < g.names) :
    (filesIn whole levels place reach entries).Pairwise fun f g => f.names < g.names := by
  induction entries with
  | nil => simp [filesIn]
  | cons e entries ih =>
    obtain ⟨name, t⟩ := e
    obtain ⟨hfirst, hrest⟩ := List.pairwise_cons.mp hnames
    obtain ⟨hat, hats⟩ := List.forall_mem_cons.mp hat
    rw [filesIn]
    refine List.pairwise_append.mpr ⟨hat, ih hrest hats, fun f hf g hg => ?_⟩
    obtain ⟨rest, hf⟩ := exists_names_of_mem_filesAt hf
    obtain ⟨other, hother, others, hg⟩ := exists_names_of_mem_filesIn hg
    rw [hf, hg, List.cons_lt_cons_iff]
    exact .inl (hfirst other hother)

theorem Ordered.pairwise_filesAt (h : t.Ordered) (levels : List IgnoreLevel) (place : List String)
    (reach : Reach) (name : String) :
    (filesAt whole levels place reach name t).Pairwise fun f g => f.names < g.names := by
  induction h generalizing levels place reach name with
  | file content =>
    rw [filesAt]
    split <;> simp
  | @directory entries names inside ih =>
    rw [filesAt]
    split
    · exact .nil
    · split
      · exact .nil
      · rw [List.pairwise_map]
        refine (pairwise_filesIn names fun e he => ih e he _ _ _ _).imp fun hfg => ?_
        exact List.cons_lt_cons_iff.mpr (.inr ⟨rfl, hfg⟩)
  | link target =>
    rw [filesAt]
    split
    · exact .nil
    · split <;> simp
  | socket => simp [filesAt]

theorem Ordered.pairwise_walk (h : whole.Ordered) (place : List String) (reach : Reach) :
    (whole.walk place reach).Pairwise fun f g => f.names < g.names := by
  unfold walk
  split
  · rename_i entries hplace
    have hordered := h.get? hplace
    exact pairwise_filesIn hordered.pairwise_entries fun e he =>
      (hordered.of_mem_entries he).pairwise_filesAt _ _ _ _
  · exact .nil

end FileTree

/-- The files of a directory are read in the order of their names, and none of them twice. -/
theorem Source.pairwise_files (whole : OrderedTree) (place : List String) (options : Options) :
    (files whole.tree place options).Pairwise fun f g => f.names < g.names := by
  unfold files
  split
  · exact .nil
  · exact (whole.ordered.pairwise_walk place options.depth).filter _

end DeclTree

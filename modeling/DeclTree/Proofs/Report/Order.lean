import DeclTree.Report
import Mathlib.Data.Prod.Lex
import Mathlib.Data.String.Basic

/-!
# The order of a report

Two entities that neither comes before are equal, since the order compares both of their fields.
So sorting forgets the order in which entities were found, and with it the report does.
-/

namespace DeclTree

namespace Entity

/-- The fields of an entity in the order in which a report compares them. -/
def key (e : Entity) : String ×ₗ String := toLex (e.fullName, e.name)

theorem eq_of_key {a b : Entity} (h : a.key = b.key) : a = b := by
  obtain ⟨hfull, hname⟩ := Prod.mk.injEq .. ▸ toLex.injective h
  cases a
  cases b
  simp_all

theorem before_iff {a b : Entity} : before a b = true ↔ a.key ≤ b.key := by
  rw [key, key, Prod.Lex.toLex_le_toLex, ← not_lt]
  simp only [before, Bool.or_eq_true, Bool.and_eq_true, Bool.not_eq_true', decide_eq_true_eq,
    decide_eq_false_iff_not, beq_iff_eq]

theorem sort_pairwise (entities : List Entity) :
    (sort entities).Pairwise fun a b => before a b = true := by
  apply List.pairwise_mergeSort
  · intro a b c hab hbc
    exact before_iff.mpr (le_trans (before_iff.mp hab) (before_iff.mp hbc))
  · intro a b
    rw [Bool.or_eq_true, before_iff, before_iff]
    exact le_total a.key b.key

theorem sort_eq_of_perm {es fs : List Entity} (h : es.Perm fs) : sort es = sort fs := by
  have hperm : (sort es).Perm (sort fs) := (sort_perm es).trans (h.trans (sort_perm fs).symm)
  refine hperm.eq_of_pairwise ?_ (sort_pairwise es) (sort_pairwise fs)
  intro a b _ _ hab hba
  exact eq_of_key (le_antisymm (before_iff.mp hab) (before_iff.mp hba))

end Entity

/-- A report shows what was found and how often, and not when. -/
theorem report_eq_of_perm (format : Report.Format) {es fs : List Entity} (h : es.Perm fs) :
    report format es = report format fs := by
  cases format with
  | plain => rw [report, report, Entity.sort_eq_of_perm h]
  | json => rw [report, report, Entity.sort_eq_of_perm h]

end DeclTree

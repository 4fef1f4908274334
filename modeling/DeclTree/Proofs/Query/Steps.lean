import DeclTree.Query.Run
import Mathlib.Data.List.Nodup

/-!
# The last step on each aspect counts

A query is put together in steps. Two steps on different aspects may change places, and a step makes
all earlier ones on its aspect void, so what a query accepts and where its walk goes depend only on
the last step on each aspect. The kinds a query starts with count as the first step on kinds.
-/

namespace DeclTree.Query

/-- What a step speaks about. Tests for entering a declaration are told apart by its kind. -/
inductive Aspect where
  | name
  | scope
  | visibility
  | generic
  | interfaces
  | annotations
  | kinds
  | visit (kind : Kind)
deriving DecidableEq

def Step.aspect : Step → Aspect
  | .name _ => .name
  | .scope _ => .scope
  | .visibility _ => .visibility
  | .generic _ => .generic
  | .interfaces _ => .interfaces
  | .annotations _ => .annotations
  | .kinds _ => .kinds
  | .visit kind _ => .visit kind

/-- The last step on an aspect. -/
def last? (aspect : Aspect) (steps : List Step) : Option Step :=
  steps.reverse.find? fun s => s.aspect = aspect

/-- The last step on each aspect, in the order in which they were taken. -/
def lastSteps : List Step → List Step
  | [] => []
  | s :: steps =>
    if s.aspect ∈ steps.map Step.aspect then lastSteps steps else s :: lastSteps steps

/-! ## Two steps -/

theorem apply_comm (q : Query) {s t : Step} (h : s.aspect ≠ t.aspect) :
    (q.apply s).apply t = (q.apply t).apply s := by
  cases s <;> cases t
  case visit.visit kind test other otherTest =>
    have hkind : kind ≠ other := fun heq => h (congrArg Aspect.visit heq)
    have hvisit : ∀ k, (if k = other then some otherTest else
          if k = kind then some test else q.visit k) =
        if k = kind then some test else if k = other then some otherTest else q.visit k := by
      intro k
      by_cases hk : k = kind
      · subst hk
        simp [hkind]
      · simp [hk]
    simp only [apply, hvisit]
  all_goals first
    | rfl
    | exact absurd rfl h

theorem apply_apply (q : Query) {s t : Step} (h : s.aspect = t.aspect) :
    (q.apply s).apply t = q.apply t := by
  cases s <;> cases t
  case visit.visit kind test other otherTest =>
    cases h
    have hvisit : ∀ k, (if k = kind then some otherTest else
          if k = kind then some test else q.visit k) =
        if k = kind then some otherTest else q.visit k := by
      intro k
      by_cases hk : k = kind <;> simp [hk]
    simp only [apply, hvisit]
  all_goals first
    | rfl
    | cases h

/-- Other kinds to start with are a step on kinds taken before all others. -/
theorem with_kinds_eq_apply (q : Query) (start : KindSet) :
    { q with kinds := start } = q.apply (.kinds start.toList) := by
  rw [apply, KindSet.ofList_toList]

/-! ## A sequence of steps -/

/-- A step is void if a later one is on its aspect: it is moved behind the steps on other aspects
and there replaced. -/
theorem applyAll_apply (q : Query) {s : Step} {steps : List Step}
    (h : s.aspect ∈ steps.map Step.aspect) : (q.apply s).applyAll steps = q.applyAll steps := by
  induction steps generalizing q with
  | nil => simp at h
  | cons t steps ih =>
    rw [applyAll_cons, applyAll_cons]
    by_cases hst : s.aspect = t.aspect
    · rw [apply_apply q hst]
    · rw [apply_comm q hst]
      exact ih (q.apply t) (List.mem_of_ne_of_mem hst h)

theorem applyAll_lastSteps (q : Query) (steps : List Step) :
    q.applyAll (lastSteps steps) = q.applyAll steps := by
  induction steps generalizing q with
  | nil => rfl
  | cons s steps ih =>
    rw [lastSteps]
    split
    · rename_i hlater
      rw [ih, applyAll_cons, applyAll_apply q hlater]
    · rw [applyAll_cons, applyAll_cons, ih]

theorem aspect_mem_lastSteps {steps : List Step} {aspect : Aspect} :
    aspect ∈ (lastSteps steps).map Step.aspect ↔ aspect ∈ steps.map Step.aspect := by
  induction steps with
  | nil => rfl
  | cons s steps ih =>
    rw [lastSteps]
    split
    · rename_i hlater
      rw [ih, List.map_cons, List.mem_cons]
      constructor
      · exact Or.inr
      · rintro (rfl | h)
        · exact hlater
        · exact h
    · simp only [List.map_cons, List.mem_cons, ih]

theorem nodup_lastSteps (steps : List Step) : ((lastSteps steps).map Step.aspect).Nodup := by
  induction steps with
  | nil => exact .nil
  | cons s steps ih =>
    rw [lastSteps]
    split
    · exact ih
    · rename_i hlater
      rw [List.map_cons, List.nodup_cons, aspect_mem_lastSteps]
      exact ⟨hlater, ih⟩

/-- Steps on different aspects may be taken in any order. -/
theorem applyAll_perm (q : Query) {steps others : List Step} (h : steps.Perm others)
    (hsteps : (steps.map Step.aspect).Nodup) : q.applyAll steps = q.applyAll others := by
  refine h.foldl_eq' (fun s hs t ht q => ?_) q
  by_cases hst : s.aspect = t.aspect
  · rw [List.inj_on_of_nodup_map hsteps hs ht hst]
  · exact apply_comm q hst

theorem last?_cons (aspect : Aspect) (s : Step) (steps : List Step) :
    last? aspect (s :: steps) =
      (last? aspect steps).or (if s.aspect = aspect then some s else none) := by
  simp only [last?, List.reverse_cons, List.find?_append, List.find?_singleton,
    decide_eq_true_eq]

theorem last?_eq_none_iff {aspect : Aspect} {steps : List Step} :
    last? aspect steps = none ↔ aspect ∉ steps.map Step.aspect := by
  simp only [last?, List.find?_eq_none, List.mem_reverse, decide_eq_true_eq, List.mem_map,
    not_exists, not_and]

theorem mem_lastSteps {steps : List Step} {s : Step} :
    s ∈ lastSteps steps ↔ last? s.aspect steps = some s := by
  induction steps with
  | nil => simp [lastSteps, last?]
  | cons t steps ih =>
    rw [lastSteps, last?_cons]
    split
    · rename_i hlater
      rw [ih]
      cases hlast : last? s.aspect steps with
      | none =>
        -- The first step is not on this aspect, since a later one is on the aspect of the first.
        have hst : t.aspect ≠ s.aspect := by
          intro heq
          exact last?_eq_none_iff.mp hlast (heq ▸ hlater)
        simp [hst]
      | some u => simp
    · rename_i hlater
      rw [List.mem_cons, ih]
      cases hlast : last? s.aspect steps with
      | none =>
        by_cases hst : t.aspect = s.aspect
        · simp [hst, eq_comm]
        · have hne : s ≠ t := fun heq => hst (heq ▸ rfl)
          simp [hst, hne]
      | some u =>
        have hne : s ≠ t := by
          rintro rfl
          rw [last?_eq_none_iff.mpr hlater] at hlast
          cases hlast
        simp [hne]

theorem lastSteps_perm {steps others : List Step}
    (h : ∀ aspect, last? aspect steps = last? aspect others) :
    (lastSteps steps).Perm (lastSteps others) := by
  rw [List.perm_ext_iff_of_nodup (nodup_lastSteps steps).of_map (nodup_lastSteps others).of_map]
  intro s
  rw [mem_lastSteps, mem_lastSteps, h]

/-- A query accepts and prunes as if only the last step on each aspect had been taken, in whatever
order, and the kinds it started with do not count once a step names kinds. So sequences with the
same last steps find the same in every tree. -/
theorem applyAll_by_last_steps (q : Query) (steps : List Step) :
    (∀ kept, kept.Perm (lastSteps steps) →
      (∀ d scope, (q.applyAll steps).includes d scope = (q.applyAll kept).includes d scope) ∧
      ∀ d, (q.applyAll steps).visitable d = (q.applyAll kept).visitable d) ∧
    (.kinds ∈ steps.map Step.aspect → ∀ start : KindSet,
      { q with kinds := start }.applyAll steps = q.applyAll steps) ∧
    ∀ others, (∀ aspect, last? aspect steps = last? aspect others) →
      ∀ root, (q.applyAll steps).run root = (q.applyAll others).run root := by
  refine ⟨?_, ?_, ?_⟩
  · intro kept hkept
    have hsame : q.applyAll steps = q.applyAll kept := by
      rw [← applyAll_lastSteps, applyAll_perm q hkept.symm (nodup_lastSteps steps)]
    rw [hsame]
    exact ⟨fun _ _ => rfl, fun _ => rfl⟩
  · intro hkinds start
    rw [with_kinds_eq_apply]
    exact applyAll_apply q hkinds
  · intro others hlast root
    have hsame : q.applyAll steps = q.applyAll others := by
      rw [← applyAll_lastSteps, applyAll_perm q (lastSteps_perm hlast) (nodup_lastSteps steps),
        applyAll_lastSteps]
    rw [hsame]

end DeclTree.Query

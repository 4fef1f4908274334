import DeclTree.Proofs.Query.Chains
import DeclTree.Proofs.Report.Order
import Mathlib

/-!
# Queries under any schedule

Several workers may share one walk. What is still to be visited is kept in a pool, from which any
visit may be taken next. Taking one puts what it finds itself behind the results so far and its
children into the pool, in one step; which worker does it and when is left open, so the pool is a
multiset and a schedule is a run of the step relation until the pool is empty.

The results and what the pool will still find in sequence make up the same multiset before and
after each step. At the start it is what the walk finds on its own, at the end it is the results.
-/

namespace DeclTree

namespace Declaration

/-- The number of declarations in a tree, its root included. -/
def count (d : Declaration) : Nat := d.occurrences.length + 1

theorem length_occurrencesFrom (i : Nat) (ds : List Declaration) :
    (occurrencesFrom i ds).length = (ds.map count).sum := by
  induction ds generalizing i with
  | nil => simp
  | cons d ds ih =>
    rw [occurrencesFrom_cons, List.length_append, ih, occurrencesAt_eq]
    simp [count]

theorem count_eq (d : Declaration) : d.count = (d.children.map count).sum + 1 := by
  rw [count, occurrences, length_occurrencesFrom]

end Declaration

namespace Query

/-- A declaration that may stand where it does, waiting to be visited there. -/
structure Visit where
  scope : Scope
  node : Declaration

namespace Visit

def opens (q : Query) (v : Visit) : Bool := !v.node.isSpecial && q.visitable v.node

def reported (q : Query) (v : Visit) : List Entity :=
  if v.opens q then q.report v.scope v.node else []

/-- The visits directly below a declaration. -/
def below (scope : Scope) (d : Declaration) : List Visit :=
  (d.children.filter fun c => d.kind.mayContain c.kind).map (⟨scope, ·⟩)

def spawned (q : Query) (v : Visit) : List Visit :=
  if v.opens q then below (v.scope.enter v.node) v.node else []

/-- All that a visit finds when it is carried out in sequence. -/
def found (q : Query) (v : Visit) : List Entity :=
  if v.opens q then
    q.report v.scope v.node ++ q.findAll v.node.kind (v.scope.enter v.node) v.node.children
  else []

theorem find_eq (q : Query) (parent : Kind) (scope : Scope) (d : Declaration) :
    q.find parent scope d = if parent.mayContain d.kind then found q ⟨scope, d⟩ else [] := by
  cases d with
  | node header children =>
    by_cases hmay : parent.mayContain header.kind = true
    · simp [find, found, enters, opens, hmay]
    · simp [find, enters, hmay]

theorem findAll_children (q : Query) (scope : Scope) (d : Declaration) :
    q.findAll d.kind scope d.children = (below scope d).flatMap (found q) := by
  rw [findAll_eq_flatMap, below, List.flatMap_map]
  induction d.children with
  | nil => rfl
  | cons c cs ih =>
    rw [List.flatMap_cons, ih, find_eq]
    by_cases hmay : d.kind.mayContain c.kind = true <;> simp [hmay]

theorem found_eq (q : Query) (v : Visit) :
    v.found q = v.reported q ++ (v.spawned q).flatMap (found q) := by
  rw [found, reported, spawned]
  split
  · rw [findAll_children]
  · rfl

/-- A visit and all visits it leads to are no more than the declarations it is about. -/
theorem sum_count_spawned (q : Query) (v : Visit) :
    ((v.spawned q).map fun w => w.node.count).sum < v.node.count := by
  rw [Declaration.count_eq v.node, Nat.lt_succ_iff]
  unfold spawned
  split
  · rw [below, List.map_map]
    exact (List.filter_sublist.map Declaration.count).sum_le_sum (by simp)
  · simp

end Visit

structure Pool where
  pending : Multiset Visit
  /-- The results so far, in the order in which they came in. -/
  sink : List Entity

namespace Pool

/-- Nothing is found yet. A query that asks for no kind at all is not walked. -/
def start (q : Query) (root : Declaration) : Pool where
  pending := if q.kinds.maxLevel.isSome then Visit.below {} root else 0
  sink := []

inductive Step (q : Query) : Pool → Pool → Prop
  | visit (v : Visit) (rest : Multiset Visit) (sink : List Entity) :
      Step q ⟨v ::ₘ rest, sink⟩ ⟨rest + v.spawned q, sink ++ v.reported q⟩

abbrev Reaches (q : Query) : Pool → Pool → Prop := Relation.ReflTransGen (Step q)

/-- The results so far and all that the pool will still find. -/
def total (q : Query) (p : Pool) : Multiset Entity :=
  p.sink + p.pending.bind fun v => (v.found q : Multiset Entity)

theorem Step.total_eq {q : Query} {p r : Pool} (h : Step q p r) : r.total q = p.total q := by
  cases h with
  | visit v rest sink =>
    have hspawned : (v.spawned q : Multiset Visit).bind (fun w => (w.found q : Multiset Entity)) =
        ((v.spawned q).flatMap (Visit.found q) : List Entity) :=
      Multiset.coe_bind (v.spawned q) (Visit.found q)
    simp only [total, Multiset.cons_bind, Multiset.add_bind, hspawned, Visit.found_eq q v,
      ← Multiset.coe_add]
    ac_rfl

theorem Reaches.total_eq {q : Query} {p r : Pool} (h : Reaches q p r) : r.total q = p.total q := by
  induction h with
  | refl => rfl
  | tail _ hstep ih => exact hstep.total_eq.trans ih

theorem total_start (q : Query) (root : Declaration) :
    (start q root).total q = (q.run root : Multiset Entity) := by
  unfold start total
  split
  · rw [run, Visit.findAll_children]
    simp
  · rename_i hnone
    -- Without a level to go down to, the walk does not enter anything.
    have hfind : ∀ d, q.find root.kind {} d = [] := by
      intro d
      rw [Visit.find_eq]
      simp_all [Visit.found, Visit.opens, visitable]
    have hrun : q.run root = [] := by
      rw [run, findAll_eq_flatMap, List.flatMap_eq_nil_iff]
      exact fun d _ => hfind d
    simp [hrun]

def remaining (p : Pool) : Nat := (p.pending.map fun v => v.node.count).sum

theorem Step.remaining_lt {q : Query} {p r : Pool} (h : Step q p r) :
    r.remaining < p.remaining := by
  cases h with
  | visit v rest sink =>
    have hcount := v.sum_count_spawned q
    simp only [remaining, Multiset.map_add, Multiset.sum_add, Multiset.map_cons,
      Multiset.sum_cons, Multiset.map_coe, Multiset.sum_coe]
    omega

/-- Every walk can be carried to its end, whatever was done so far. -/
theorem exists_reaches_end (q : Query) (p : Pool) : ∃ sink, Reaches q p ⟨0, sink⟩ := by
  induction hn : p.remaining using Nat.strong_induction_on generalizing p with
  | _ n ih =>
    obtain ⟨pending, sink⟩ := p
    induction pending using Multiset.induction_on with
    | empty => exact ⟨sink, .refl⟩
    | cons v rest _ =>
      have hstep := Step.visit (q := q) v rest sink
      obtain ⟨out, hout⟩ := ih _ (hn ▸ hstep.remaining_lt) _ rfl
      exact ⟨out, .head hstep hout⟩

end Pool

/-- Whatever order the pending visits are taken in, the walk can be brought to its end, and there
the results are those of the walk in sequence up to order and give the same reports. -/
theorem schedules_agree_with_run (q : Query) (root : Declaration) :
    (∀ p, Pool.Reaches q (.start q root) p → ∃ sink, Pool.Reaches q p ⟨0, sink⟩) ∧
    ∀ sink, Pool.Reaches q (.start q root) ⟨0, sink⟩ →
      sink.Perm (q.run root) ∧
      ∀ format, DeclTree.report format sink = DeclTree.report format (q.run root) := by
  refine ⟨fun p _ => Pool.exists_reaches_end q p, ?_⟩
  intro sink h
  have htotal := h.total_eq
  rw [Pool.total_start] at htotal
  have hperm : sink.Perm (q.run root) := by
    rw [← Multiset.coe_eq_coe, ← htotal]
    simp [Pool.total]
  exact ⟨hperm, fun format => report_eq_of_perm format hperm⟩

end Query

end DeclTree

import DeclTree.Proofs.Inheritance.Idempotence

/-!
# The rounds that closing takes

Closing a declaration follows references until none is left, with no limit of its own. `Loops` is
that loop, together with the number of its rounds. A round takes one reference off the stack. It
puts an interface on it only if the name is new among the interfaces, and a base only if the name is
new among the bases met; both are names that the index has. So the references written at the
declaration and the names of the index bound the number of rounds, whatever cycles there are.

The base of the declaration itself is not among the bases met when the loop starts. It may be
followed twice, and is counted twice: once on the stack, once among the names.
-/

open DeclTree.TypeName

namespace DeclTree

namespace Inheritance

/-- All that is declared in an index, once for every qualified name. -/
def entries (index : List Site) : List Inherited :=
  (index.map Site.key).eraseDups.filterMap (declared? index)

/-- The canonical names of the interfaces in an index. -/
def interfaceNames (index : List Site) : Finset String :=
  (canonicals ((entries index).flatMap Inherited.interfaces)).toFinset

/-- The canonical names of the bases in an index. A qualified name has one base at most, the first
that is written under it. -/
def baseNames (index : List Site) : Finset String :=
  (canonicals ((entries index).filterMap Inherited.base)).toFinset

theorem mem_entries {index : List Site} {key : String} {d : Inherited}
    (h : declared? index key = some d) : d ∈ entries index := by
  obtain ⟨s, hs, rfl⟩ := keyed_of_declared? h
  refine List.mem_filterMap.mpr ⟨s.key, ?_, h⟩
  rw [List.mem_eraseDups]
  exact List.mem_map_of_mem hs

namespace Closing

variable {index : List Site}

theorem covers_names (index : List Site) :
    Covers index (interfaceNames index) (baseNames index) := by
  intro key d hd
  have hentry : d ∈ entries index := mem_entries hd
  refine ⟨?_, ?_⟩
  · intro t ht
    exact List.mem_toFinset.mpr (canonical_mem (List.mem_flatMap.mpr ⟨d, hentry, ht⟩))
  · intro t ht
    exact List.mem_toFinset.mpr (canonical_mem (List.mem_filterMap.mpr ⟨d, hentry, ht⟩))

/-- The loop takes so many rounds from the first state, and ends in the last one. -/
inductive Loops (index : List Site) : Closing → Nat → Closing → Prop
  | done {c : Closing} (idle : c.pending = []) : Loops index c 0 c
  | round {c last : Closing} {k : Nat} (busy : c.pending ≠ [])
      (onward : Loops index (c.step index) k last) : Loops index c (k + 1) last

theorem exists_loops {names bases : Finset String} (hcovers : Covers index names bases)
    (c : Closing) : ∃ k last, Loops index c k last := by
  induction hcount : c.remaining names bases generalizing c with
  | zero =>
    have hidle : c.pending.length = 0 := by
      unfold remaining at hcount
      omega
    exact ⟨0, c, .done (List.length_eq_zero_iff.mp hidle)⟩
  | succ count ih =>
    by_cases hidle : c.pending = []
    · exact ⟨0, c, .done hidle⟩
    · have hstep := remaining_step hcovers hidle
      obtain ⟨k, last, hloops⟩ := ih (c.step index) (by omega)
      exact ⟨k + 1, last, .round hidle hloops⟩

theorem Loops.le_remaining {names bases : Finset String} (hcovers : Covers index names bases)
    {c last : Closing} {k : Nat} (h : Loops index c k last) : k ≤ c.remaining names bases := by
  induction h with
  | done => exact Nat.zero_le _
  | round busy _ ih =>
    have hstep := remaining_step hcovers busy
    omega

/-- Enough rounds of the loop with a limit end where the loop without one does. -/
theorem Loops.run_eq {c last : Closing} {k n : Nat} (h : Loops index c k last)
    (hidle : (c.run index n).pending = []) : c.run index n = last := by
  induction h generalizing n with
  | done idle => exact run_of_pending_eq_nil idle n
  | round busy _ ih =>
    cases n with
    | zero => exact absurd hidle busy
    | succ n =>
      rw [run, if_neg (by simpa using busy)] at hidle ⊢
      exact ih hidle

end Closing

open Closing

/-- The loop ends at every declaration of every tree, within as many rounds as the declaration has
interfaces, one more, and the distinct names of interfaces and of bases in the index. The state it
ends in has the interfaces of the closed declaration. -/
theorem loop_ends_within_names {root : Declaration} {place : List Nat} {scope : String}
    {n : Declaration} (h : locate "" root place = some (scope, n)) :
    (∃ k last, Loops (sites "" root) (start scope n.header) k last) ∧
      ∀ k last, Loops (sites "" root) (start scope n.header) k last →
        k ≤ n.header.interfaces.length + 1 + (interfaceNames (sites "" root)).card +
          (baseNames (sites "" root)).card ∧
        ∃ closed, locate "" root.close place = some (scope, closed) ∧
          closed.header.interfaces = last.interfaces := by
  have hcovers := covers_names (sites "" root)
  refine ⟨exists_loops hcovers _, ?_⟩
  intro k last hloops
  have hbound := remaining_start_le (interfaceNames (sites "" root)) (baseNames (sites "" root))
    scope n.header
  refine ⟨(hloops.le_remaining hcovers).trans hbound, closeIn (sites "" root) scope n, ?_, ?_⟩
  · rw [Declaration.close, locate_closeIn, h]
    rfl
  · have hrun := hloops.run_eq (pending_run_start (sites "" root) scope n.header)
    obtain ⟨header, children⟩ := n
    rw [closeIn, Declaration.header_node, closeHeader, ← hrun, Declaration.header_node]

/-- A class whose interface and whose base both lead back to where they started. -/
def knot : Declaration :=
  .node { kind := .class, name := "Knot", interfaces := [⟨"", "Loop", []⟩],
          base := some ⟨"Right", "Bow", []⟩ } []

/-- Interfaces that extend each other and themselves and classes that are each other's base, on both
sides of two namespaces. -/
def tangle : Declaration :=
  .global [
    .space "Left" [
      .node { kind := .interface, name := "Loop",
              interfaces := [⟨"", "Loop", []⟩, ⟨"Right", "Turn", []⟩] } [],
      knot],
    .space "Right" [
      .node { kind := .interface, name := "Turn", interfaces := [⟨"Left", "Loop", []⟩] } [],
      .node { kind := .class, name := "Bow", interfaces := [⟨"", "Turn", []⟩],
              base := some ⟨"Left", "Knot", []⟩ } []]]

theorem loop_ends_tangle :
    locate "" tangle [0, 1] = some ("Left", knot) ∧
      (∃ k last, Loops (sites "" tangle) (start "Left" knot.header) k last) ∧
      ∀ k last, Loops (sites "" tangle) (start "Left" knot.header) k last →
        k ≤ knot.header.interfaces.length + 1 + (interfaceNames (sites "" tangle)).card +
          (baseNames (sites "" tangle)).card ∧
        ∃ closed, locate "" tangle.close [0, 1] = some ("Left", closed) ∧
          closed.header.interfaces = last.interfaces := by
  have hplace : locate "" tangle [0, 1] = some ("Left", knot) := by cbv
  exact ⟨hplace, loop_ends_within_names hplace⟩

end Inheritance

end DeclTree

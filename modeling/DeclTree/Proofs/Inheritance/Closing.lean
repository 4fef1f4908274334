import DeclTree.Inheritance
import DeclTree.Proofs.Lists

/-!
# Closing one declaration

What a round of closing can do is said once, in `Closing.Takes`: which interfaces and which base are
taken in, and that nothing else changes. Every invariant of closing is drawn from it.

A round takes one reference off the stack, and each reference put on it uses up a canonical name
that the index has and that was not met before. `Closing.remaining` counts both, so it goes down by
one a round, and `rounds` of them empty the stack whatever cycles there are.
-/

open DeclTree.TypeName

namespace DeclTree

namespace Inheritance

/-- Whatever a reference resolves to is declared under some qualified name. -/
theorem exists_declared_of_resolve {index : List Site} {scope : String} {type : TypeName}
    {d : Inherited} (h : resolve? index scope type = some d) :
    ∃ key, declared? index key = some d := by
  unfold resolve? unambiguous? at h
  rw [Option.or_eq_some_iff, Option.or_eq_some_iff] at h
  rcases h with h | ⟨-, h | ⟨-, h⟩⟩
  · exact ⟨_, h⟩
  · split at h
    · simp at h
    · exact ⟨_, h⟩
  · split at h
    · exact ⟨_, h⟩
    · simp at h

theorem mem_index_of_declared {index : List Site} {key : String} {d : Inherited}
    (h : declared? index key = some d) :
    (∀ t ∈ d.interfaces, t ∈ index.flatMap Site.interfaces) ∧
      ∀ t, d.base = some t → t ∈ index.filterMap Site.base := by
  have hsites : ∀ s ∈ index.filter fun s => s.key == key, s ∈ index :=
    fun s hs => (List.mem_filter.mp hs).1
  unfold declared? at h
  split at h
  · simp at h
  · rename_i s ss hfilter
    rw [hfilter] at hsites
    cases h
    constructor
    · intro t ht
      obtain ⟨u, hu, htu⟩ := List.mem_flatMap.mp ht
      exact List.mem_flatMap.mpr ⟨u, hsites u hu, htu⟩
    · intro t ht
      obtain ⟨u, hu, hut⟩ := List.exists_of_findSome?_eq_some ht
      exact List.mem_filterMap.mpr ⟨u, hsites u hu, hut⟩

namespace Closing

/-- The second state is the first with what a type passes on taken in: `fresh` are the interfaces
that were new, and `based` is the base if it was new. -/
structure Takes (c : Closing) (d : Inherited) (e : Closing) (fresh based : List TypeName) :
    Prop where
  interfaces : e.interfaces = c.interfaces ++ fresh
  bases : e.bases = canonicals based ++ c.bases
  pending : e.pending = (based ++ fresh.reverse).map (⟨·, d.scope⟩) ++ c.pending
  fresh_sublist : fresh.Sublist d.interfaces
  fresh_nodup : (canonicals fresh).Nodup
  fresh_new : ∀ name ∈ canonicals fresh, name ∉ canonicals c.interfaces
  based_mem : ∀ t ∈ based, d.base = some t
  based_nodup : (canonicals based).Nodup
  based_new : ∀ name ∈ canonicals based, name ∉ c.bases
  interfaces_met : ∀ t ∈ d.interfaces, t.canonical ∈ canonicals e.interfaces
  base_met : ∀ t, d.base = some t → t.canonical ∈ e.bases

theorem foldl_addInterface (scope : String) (ts : List TypeName) (c : Closing) :
    ∃ fresh, ts.foldl (addInterface scope) c =
        { c with
          interfaces := c.interfaces ++ fresh
          pending := fresh.reverse.map (⟨·, scope⟩) ++ c.pending } ∧
      fresh.Sublist ts ∧ (canonicals fresh).Nodup ∧
      (∀ name ∈ canonicals fresh, name ∉ canonicals c.interfaces) ∧
      ∀ t ∈ ts, t.canonical ∈ canonicals (c.interfaces ++ fresh) := by
  induction ts generalizing c with
  | nil => exact ⟨[], by simp⟩
  | cons t ts ih =>
    rw [List.foldl_cons, addInterface]
    split
    · rename_i hlisted
      rw [listed_iff] at hlisted
      obtain ⟨fresh, hfold, hsub, hnodup, hnew, hmet⟩ := ih c
      refine ⟨fresh, hfold, hsub.cons t, hnodup, hnew, ?_⟩
      intro u hu
      rcases List.mem_cons.mp hu with rfl | hu
      · rw [canonicals_append, List.mem_append]
        exact .inl hlisted
      · exact hmet u hu
    · rename_i hlisted
      rw [listed_iff] at hlisted
      obtain ⟨fresh, hfold, hsub, hnodup, hnew, hmet⟩ :=
        ih { c with interfaces := c.interfaces ++ [t], pending := ⟨t, scope⟩ :: c.pending }
      simp only [canonicals_append, canonicals_cons, canonicals_nil, List.mem_append,
        List.mem_singleton, not_or] at hnew hmet
      refine ⟨t :: fresh, ?_, hsub.cons_cons t, ?_, ?_, ?_⟩
      · rw [hfold]
        simp
      · rw [canonicals_cons, List.nodup_cons]
        exact ⟨fun hmem => (hnew _ hmem).2 rfl, hnodup⟩
      · intro name hname
        rcases List.mem_cons.mp hname with rfl | hname
        · exact hlisted
        · exact (hnew name hname).1
      · intro u hu
        rw [canonicals_append, List.mem_append, canonicals_cons, List.mem_cons]
        rcases List.mem_cons.mp hu with rfl | hu
        · exact .inr (.inl rfl)
        · rcases hmet u hu with (h | h) | h
          · exact .inl h
          · exact .inr (.inl h)
          · exact .inr (.inr h)

theorem elim_addBase (scope : String) (base : Option TypeName) (c : Closing) :
    ∃ based, base.elim c (addBase scope c) =
        { c with
          bases := canonicals based ++ c.bases
          pending := based.map (⟨·, scope⟩) ++ c.pending } ∧
      (∀ t ∈ based, base = some t) ∧ (canonicals based).Nodup ∧
      (∀ name ∈ canonicals based, name ∉ c.bases) ∧
      ∀ t, base = some t → t.canonical ∈ canonicals based ++ c.bases := by
  cases base with
  | none => exact ⟨[], by simp⟩
  | some t =>
    by_cases hmem : t.canonical ∈ c.bases
    · exact ⟨[], by simp [addBase, hmem]⟩
    · exact ⟨[t], by simp [addBase, hmem]⟩

theorem exists_takes_inherit (c : Closing) (d : Inherited) :
    ∃ fresh based, Takes c d (c.inherit d) fresh based := by
  obtain ⟨fresh, hfold, hsub, hnodup, hnew, hmet⟩ := foldl_addInterface d.scope d.interfaces c
  obtain ⟨based, hbase, hmem, hnodup', hnew', hmet'⟩ := elim_addBase d.scope d.base
    { c with
      interfaces := c.interfaces ++ fresh
      pending := fresh.reverse.map (⟨·, d.scope⟩) ++ c.pending }
  refine ⟨fresh, based, ?_⟩
  rw [inherit, hfold, hbase]
  exact
    { interfaces := rfl
      bases := rfl
      pending := by simp
      fresh_sublist := hsub
      fresh_nodup := hnodup
      fresh_new := hnew
      based_mem := hmem
      based_nodup := hnodup'
      based_new := hnew'
      interfaces_met := hmet
      base_met := hmet' }

/-- What a round does: the next reference stands for nothing and is dropped, or what it stands for
is taken in. -/
theorem step_cases (index : List Site) {c : Closing} {r : Reference} {rest : List Reference}
    (h : c.pending = r :: rest) :
    (resolve? index r.scope r.type = none ∧ c.step index = { c with pending := rest }) ∨
      ∃ d fresh based, resolve? index r.scope r.type = some d ∧
        Takes { c with pending := rest } d (c.step index) fresh based := by
  cases hd : resolve? index r.scope r.type with
  | none => exact .inl ⟨rfl, by simp [step, h, hd]⟩
  | some d =>
    obtain ⟨fresh, based, htakes⟩ := exists_takes_inherit { c with pending := rest } d
    refine .inr ⟨d, fresh, based, rfl, ?_⟩
    simpa [step, h, hd] using htakes

/-- What every round keeps is kept by any number of rounds. -/
theorem run_keeps {index : List Site} {P : Closing → Prop}
    (hstep : ∀ c, c.pending ≠ [] → P c → P (c.step index)) (n : Nat) {c : Closing} (h : P c) :
    P (c.run index n) := by
  induction n generalizing c with
  | zero => exact h
  | succ n ih =>
    rw [run]
    split
    · exact h
    · rename_i hpending
      exact ih (hstep c (by simpa using hpending) h)

/-! ## What is taken in -/

/-- Interfaces that may stand behind those a declaration has: they are written in the index, and
each has a canonical name that is met nowhere before it. -/
structure Fresh (index : List Site) (own more : List TypeName) : Prop where
  distinct : (canonicals more).Nodup
  new : ∀ name ∈ canonicals more, name ∉ canonicals own
  written : ∀ t ∈ more, t ∈ index.flatMap Site.interfaces

theorem Fresh.append {index : List Site} {own more further : List TypeName}
    (h : Fresh index own more) (k : Fresh index (own ++ more) further) :
    Fresh index own (more ++ further) := by
  have hfurther : ∀ name ∈ canonicals further,
      name ∉ canonicals own ∧ name ∉ canonicals more := by
    intro name hname
    have hnew := k.new name hname
    rwa [canonicals_append, List.mem_append, not_or] at hnew
  refine ⟨?_, ?_, ?_⟩
  · rw [canonicals_append, List.nodup_append']
    exact ⟨h.distinct, k.distinct, fun name hmore hname => (hfurther name hname).2 hmore⟩
  · intro name hname
    rw [canonicals_append, List.mem_append] at hname
    rcases hname with hname | hname
    · exact h.new name hname
    · exact (hfurther name hname).1
  · intro t ht
    rcases List.mem_append.mp ht with ht | ht
    · exact h.written t ht
    · exact k.written t ht

theorem Takes.isFresh {index : List Site} {scope : String} {type : TypeName} {c e : Closing}
    {d : Inherited} {fresh based : List TypeName} (htakes : Takes c d e fresh based)
    (hd : resolve? index scope type = some d) : Fresh index c.interfaces fresh := by
  obtain ⟨key, hkey⟩ := exists_declared_of_resolve hd
  refine ⟨htakes.fresh_nodup, htakes.fresh_new, ?_⟩
  intro t ht
  exact (mem_index_of_declared hkey).1 t (htakes.fresh_sublist.subset ht)

/-- After any number of rounds a declaration has its own interfaces and fresh ones behind them. -/
theorem run_start_fresh (index : List Site) (scope : String) (h : Header) (n : Nat) :
    ∃ more, ((start scope h).run index n).interfaces = h.interfaces ++ more ∧
      Fresh index h.interfaces more := by
  refine run_keeps (P := fun c => ∃ more, c.interfaces = h.interfaces ++ more ∧
    Fresh index h.interfaces more) ?_ n ⟨[], by simp [start], by simp, by simp, by simp⟩
  rintro c hpending ⟨more, hmore, hfresh⟩
  obtain ⟨r, rest, hrest⟩ := List.exists_cons_of_ne_nil hpending
  rcases step_cases index hrest with ⟨-, hstep⟩ | ⟨d, fresh, based, hd, htakes⟩
  · rw [hstep]
    exact ⟨more, hmore, hfresh⟩
  · have htaken := htakes.isFresh hd
    dsimp only at htaken
    rw [hmore] at htaken
    refine ⟨more ++ fresh, ?_, hfresh.append htaken⟩
    rw [htakes.interfaces, hmore, List.append_assoc]

/-! ## Enough rounds -/

/-- The references on the stack, and the names in the index that are not met yet. -/
def budget (index : List Site) (c : Closing) : Nat :=
  c.pending.length +
    ((canonicals (index.flatMap Site.interfaces)).toFinset \
      (canonicals c.interfaces).toFinset).card +
    ((canonicals (index.filterMap Site.base)).toFinset \ c.bases.toFinset).card

/-- All canonical names of interfaces and of bases that closing can meet are in the two sets. -/
def Covers (index : List Site) (names bases : Finset String) : Prop :=
  ∀ key d, declared? index key = some d →
    (∀ t ∈ d.interfaces, t.canonical ∈ names) ∧ ∀ t, d.base = some t → t.canonical ∈ bases

/-- The references on the stack, and the names in two sets that are not met yet. -/
def remaining (names bases : Finset String) (c : Closing) : Nat :=
  c.pending.length + (names \ (canonicals c.interfaces).toFinset).card +
    (bases \ c.bases.toFinset).card

/-- A round uses up the reference that it follows, and a name for each that it puts on the stack. -/
theorem remaining_step {index : List Site} {names bases : Finset String}
    (hcovers : Covers index names bases) {c : Closing} (h : c.pending ≠ []) :
    (c.step index).remaining names bases + 1 = c.remaining names bases := by
  obtain ⟨r, rest, hpending⟩ := List.exists_cons_of_ne_nil h
  rcases step_cases index hpending with ⟨-, hstep⟩ | ⟨d, fresh, based, hd, htakes⟩
  · simp only [hstep, remaining, hpending, List.length_cons]
    omega
  · obtain ⟨key, hkey⟩ := exists_declared_of_resolve hd
    obtain ⟨hinterfaces, hbase⟩ := hcovers key d hkey
    have hfresh := card_sdiff_append names htakes.fresh_nodup (by
        intro name hname
        obtain ⟨t, ht, rfl⟩ := List.mem_map.mp hname
        exact hinterfaces t (htakes.fresh_sublist.subset ht)) htakes.fresh_new
    have hbased := card_sdiff_append bases htakes.based_nodup (by
        intro name hname
        obtain ⟨t, ht, rfl⟩ := List.mem_map.mp hname
        exact hbase t (htakes.based_mem t ht)) htakes.based_new
    rw [List.toFinset_append, Finset.union_comm, ← List.toFinset_append] at hbased
    dsimp only at hfresh hbased
    rw [length_canonicals] at hfresh hbased
    simp only [remaining, htakes.interfaces, htakes.bases, htakes.pending, hpending,
      canonicals_append, List.length_append, List.length_map, List.length_reverse, List.length_cons]
    omega

theorem budget_step (index : List Site) {c : Closing} (h : c.pending ≠ []) :
    (c.step index).budget index + 1 = c.budget index := by
  refine remaining_step ?_ h
  intro key d hd
  obtain ⟨hinterfaces, hbase⟩ := mem_index_of_declared hd
  refine ⟨?_, ?_⟩
  · intro t ht
    exact List.mem_toFinset.mpr (canonical_mem (hinterfaces t ht))
  · intro t ht
    exact List.mem_toFinset.mpr (canonical_mem (hbase t ht))

theorem pending_run {index : List Site} {c : Closing} {n : Nat} (h : c.budget index ≤ n) :
    (c.run index n).pending = [] := by
  induction n generalizing c with
  | zero =>
    have hlength : c.pending.length = 0 := by
      unfold budget at h
      omega
    rw [run]
    exact List.length_eq_zero_iff.mp hlength
  | succ n ih =>
    rw [run]
    split
    · rename_i hpending
      simpa using hpending
    · rename_i hpending
      have hstep := budget_step index (c := c) (by simpa using hpending)
      exact ih (by omega)

theorem remaining_start_le (names bases : Finset String) (scope : String) (h : Header) :
    (start scope h).remaining names bases ≤ h.interfaces.length + 1 + names.card + bases.card := by
  have hnames : (names \ (canonicals h.interfaces).toFinset).card ≤ names.card :=
    Finset.card_le_card Finset.sdiff_subset
  have hbase : h.base.toList.length ≤ 1 := by cases h.base <;> simp
  simp only [remaining, start, List.length_map, List.length_reverse, List.length_append,
    List.toFinset_nil, Finset.sdiff_empty]
  omega

theorem budget_start (index : List Site) (scope : String) (h : Header) :
    (start scope h).budget index ≤ rounds index h := by
  have hinterfaces := card_toFinset_le (canonicals (index.flatMap Site.interfaces))
  have hbases := card_toFinset_le (canonicals (index.filterMap Site.base))
  have hstart : (start scope h).budget index ≤ _ := remaining_start_le _ _ scope h
  unfold rounds interfaceCount baseCount
  omega

/-- The rounds given to a declaration empty its stack. -/
theorem pending_run_start (index : List Site) (scope : String) (h : Header) :
    ((start scope h).run index (rounds index h)).pending = [] :=
  pending_run (budget_start index scope h)

end Closing

end Inheritance

end DeclTree

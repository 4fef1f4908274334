import DeclTree.Proofs.Inheritance.Reachability
import DeclTree.Proofs.Occurrences

/-!
# What a reference resolves to

A reference in a namespace means a qualified name: its own if a type is declared under it, else the
one it makes behind the namespace, else the only one that a type of its bare name is declared under.
`Means` says so for any collection of declared types. Following a reference obeys it for the types
that have interfaces or a base. The types without any count as declared too, and a tree is followed
as it is declared exactly when leaving them out changes the meaning of no reference.
-/

namespace DeclTree

namespace Inheritance

/-- All the references written at a site. -/
def Site.parents (s : Site) : List TypeName := s.interfaces ++ s.base.toList

theorem Site.mem_parents {s : Site} {t : TypeName} :
    t ∈ s.parents ↔ t ∈ s.interfaces ∨ s.base = some t := by
  simp [Site.parents]

/-- A type is declared under a qualified name. -/
def Keyed (among : Site → Prop) (key : String) : Prop := ∃ s, among s ∧ s.key = key

/-- The qualified name that a reference in a namespace means, given the declared types. -/
inductive Means (among : Site → Prop) (scope : String) (t : TypeName) : String → Prop
  | exact (declared : Keyed among t.openName) : Means among scope t t.openName
  | relative (undeclared : ¬ Keyed among t.openName) (inside : scope ≠ "")
      (declared : Keyed among (scope ++ "." ++ t.openName)) :
      Means among scope t (scope ++ "." ++ t.openName)
  | bare {key : String} (undeclared : ¬ Keyed among t.openName)
      (elsewhere : scope ≠ "" → ¬ Keyed among (scope ++ "." ++ t.openName))
      (declared : ∃ s, among s ∧ s.name = t.name ∧ s.key = key)
      (alone : ∀ s, among s → s.name = t.name → s.key = key) : Means among scope t key

variable {among : Site → Prop} {index : List Site} {scope : String} {t : TypeName}

theorem Means.keyed {key : String} (h : Means among scope t key) : Keyed among key := by
  cases h with
  | exact declared => exact declared
  | relative _ _ declared => exact declared
  | bare _ _ declared _ =>
    obtain ⟨s, hs, -, hkey⟩ := declared
    exact ⟨s, hs, hkey⟩

/-- A reference means no other name among fewer types, as long as one of these is declared under the
name it means among all. -/
theorem Means.eq_of_imp {all : Site → Prop} {key other : String} (h : Means among scope t key)
    (hall : Means all scope t other) (himp : ∀ s, among s → all s) (hkeyed : Keyed among other) :
    key = other := by
  have hmore : ∀ name, Keyed among name → Keyed all name := by
    rintro name ⟨s, hs, hkey⟩
    exact ⟨s, himp s hs, hkey⟩
  cases h with
  | exact declared =>
    cases hall with
    | exact => rfl
    | relative undeclared => exact absurd (hmore _ declared) undeclared
    | bare undeclared => exact absurd (hmore _ declared) undeclared
  | relative undeclared inside declared =>
    cases hall with
    | exact => exact absurd hkeyed undeclared
    | relative => rfl
    | bare _ elsewhere => exact absurd (hmore _ declared) (elsewhere inside)
  | bare undeclared elsewhere declared =>
    cases hall with
    | exact => exact absurd hkeyed undeclared
    | relative _ inside => exact absurd hkeyed (elsewhere inside)
    | bare _ _ _ alone =>
      obtain ⟨s, hs, hname, rfl⟩ := declared
      exact alone s (himp s hs) hname

/-! ## Looking up names -/

theorem declared?_eq_none_iff {key : String} :
    declared? index key = none ↔ ¬ Keyed (· ∈ index) key := by
  have hfilter : (index.filter fun s => s.key == key) = [] ↔ ¬ Keyed (· ∈ index) key := by
    simp [Keyed]
  rw [← hfilter]
  unfold declared?
  split <;> simp_all

theorem keyed_of_declared? {key : String} {d : Inherited} (h : declared? index key = some d) :
    Keyed (· ∈ index) key := by
  by_contra hkeyed
  simp [declared?_eq_none_iff.mpr hkeyed] at h

theorem declared?_eq_some {key : String} {d : Inherited} (h : declared? index key = some d) :
    ∃ s ss, (index.filter fun s => s.key == key) = s :: ss ∧
      d.interfaces = (s :: ss).flatMap Site.interfaces ∧
      d.base = (s :: ss).findSome? Site.base := by
  unfold declared? at h
  split at h
  · simp at h
  · rename_i s ss hfilter
    cases h
    exact ⟨s, ss, hfilter, rfl, rfl⟩

/-- With one site for every name, looking up a name finds one site at most. -/
theorem filter_key_of_once (honce : (index.map Site.key).Nodup) (key : String) :
    (index.filter fun s => s.key == key) = [] ∨
      ∃ s, (index.filter fun s => s.key == key) = [s] := by
  have hkeys : (index.filter fun s => s.key == key).map Site.key =
      List.replicate (index.filter fun s => s.key == key).length key := by
    rw [List.eq_replicate_iff, List.length_map]
    refine ⟨rfl, ?_⟩
    intro name hname
    obtain ⟨s, hs, rfl⟩ := List.mem_map.mp hname
    simpa using (List.mem_filter.mp hs).2
  have hnodup := honce.sublist ((List.filter_sublist (p := fun s => s.key == key)).map Site.key)
  rw [hkeys, List.nodup_replicate] at hnodup
  rcases Nat.le_one_iff_eq_zero_or_eq_one.mp hnodup with h | h
  · exact .inl (List.length_eq_zero_iff.mp h)
  · exact .inr (List.length_eq_one_iff.mp h)

/-- References are only followed that a site of the name has. -/
theorem exists_site_of_declared? {key : String} {d : Inherited} {u : TypeName}
    (h : declared? index key = some d) (hu : u ∈ d.interfaces ∨ d.base = some u) :
    ∃ s ∈ index, s.key = key ∧ u ∈ s.parents := by
  obtain ⟨s, ss, hfilter, hinterfaces, hbase⟩ := declared?_eq_some h
  have hsites : ∀ v ∈ s :: ss, v ∈ index ∧ v.key = key := by
    intro v hv
    rw [← hfilter, List.mem_filter, beq_iff_eq] at hv
    exact hv
  rcases hu with hu | hu
  · rw [hinterfaces] at hu
    obtain ⟨v, hv, huv⟩ := List.mem_flatMap.mp hu
    exact ⟨v, (hsites v hv).1, (hsites v hv).2, Site.mem_parents.mpr (.inl huv)⟩
  · rw [hbase] at hu
    obtain ⟨v, hv, huv⟩ := List.exists_of_findSome?_eq_some hu
    exact ⟨v, (hsites v hv).1, (hsites v hv).2, Site.mem_parents.mpr (.inr huv)⟩

/-- If every site has a reference, so has everything that is declared. -/
theorem exists_parent_of_declared? {key : String} {d : Inherited}
    (hindex : ∀ s ∈ index, s.parents ≠ []) (h : declared? index key = some d) :
    ∃ u, u ∈ d.interfaces ∨ d.base = some u := by
  obtain ⟨s, ss, hfilter, hinterfaces, hbase⟩ := declared?_eq_some h
  have hs : s ∈ index := by
    have hmem : s ∈ index.filter fun s => s.key == key := by simp [hfilter]
    exact (List.mem_filter.mp hmem).1
  obtain ⟨u, hu⟩ := List.exists_mem_of_ne_nil _ (hindex s hs)
  rcases Site.mem_parents.mp hu with hu | hu
  · refine ⟨u, .inl ?_⟩
    rw [hinterfaces]
    exact List.mem_flatMap.mpr ⟨s, by simp, hu⟩
  · exact ⟨u, .inr (by simp [hbase, hu])⟩

theorem keysOf_eq_singleton {name key : String} :
    keysOf index name = [key] ↔
      (∃ s, s ∈ index ∧ s.name = name ∧ s.key = key) ∧
        ∀ s, s ∈ index → s.name = name → s.key = key := by
  have hmem : ∀ k, k ∈ (index.filter fun s => s.name == name).map Site.key ↔
      ∃ s, s ∈ index ∧ s.name = name ∧ s.key = k := by
    intro k
    simp [and_assoc]
  rw [keysOf, eraseDups_eq_singleton, hmem]
  refine and_congr_right fun _ => ?_
  constructor
  · intro h s hs hname
    exact h s.key ((hmem s.key).mpr ⟨s, hs, hname, rfl⟩)
  · intro h k hk
    obtain ⟨s, hs, hname, rfl⟩ := (hmem k).mp hk
    exact h s hs hname

theorem unambiguous?_eq_some_iff {name : String} {d : Inherited} :
    unambiguous? index name = some d ↔
      ∃ key, keysOf index name = [key] ∧ declared? index key = some d := by
  unfold unambiguous?
  split <;> simp_all

/-- Looking a reference up gives what is declared under the name it means among the sites. -/
theorem resolve?_eq_some_iff {d : Inherited} :
    resolve? index scope t = some d ↔
      ∃ key, Means (· ∈ index) scope t key ∧ declared? index key = some d := by
  rw [resolve?, Option.or_eq_some_iff, Option.or_eq_some_iff, unambiguous?_eq_some_iff]
  constructor
  · rintro (h | ⟨hexact, h | ⟨hrelative, key, hkeys, h⟩⟩)
    · exact ⟨_, .exact (keyed_of_declared? h), h⟩
    · split at h
      · simp at h
      · rename_i hscope
        have hinside : scope ≠ "" := by simpa using hscope
        exact ⟨_, .relative (declared?_eq_none_iff.mp hexact) hinside (keyed_of_declared? h), h⟩
    · obtain ⟨hdeclared, halone⟩ := keysOf_eq_singleton.mp hkeys
      refine ⟨key, .bare (declared?_eq_none_iff.mp hexact) ?_ hdeclared halone, h⟩
      intro hinside
      rw [if_neg (by simpa using hinside)] at hrelative
      exact declared?_eq_none_iff.mp hrelative
  · rintro ⟨key, hmeans, h⟩
    cases hmeans with
    | exact => exact .inl h
    | relative undeclared inside =>
      refine .inr ⟨declared?_eq_none_iff.mpr undeclared, .inl ?_⟩
      rwa [if_neg (by simpa using inside)]
    | bare undeclared elsewhere declared alone =>
      refine .inr ⟨declared?_eq_none_iff.mpr undeclared, .inr ⟨?_, key, ?_, h⟩⟩
      · split
        · rfl
        · rename_i hscope
          exact declared?_eq_none_iff.mpr (elsewhere (by simpa using hscope))
      · exact keysOf_eq_singleton.mpr ⟨declared, alone⟩

/-! ## The sites of a tree -/

/-- A class, struct or interface somewhere in a tree that lies in a namespace itself, with what is
written at it. -/
def Declares (scope : String) (root : Declaration) (s : Site) : Prop :=
  ∃ place c n, locate scope root place = some (c, n) ∧ n.kind.passesInterfaces = true ∧
    s = ⟨c, n.name, n.header.interfaces, n.header.base⟩

theorem declares_node {header : Header} {children : List Declaration} {s : Site} :
    Declares scope (.node header children) s ↔
      (header.kind.passesInterfaces = true ∧
        s = ⟨scope, header.name, header.interfaces, header.base⟩) ∨
      ∃ c ∈ children, Declares (scopeBelow scope header) c s := by
  constructor
  · rintro ⟨_ | ⟨i, place⟩, c, n, hplace, hkind, rfl⟩
    · cases hplace
      exact .inl ⟨hkind, rfl⟩
    · obtain ⟨child, hchild, hplace⟩ := Option.bind_eq_some_iff.mp hplace
      exact .inr ⟨child, List.mem_of_getElem? hchild, place, c, n, hplace, hkind, rfl⟩
  · rintro (⟨hkind, rfl⟩ | ⟨child, hchild, place, c, n, hplace, hkind, rfl⟩)
    · exact ⟨[], scope, .node header children, rfl, hkind, rfl⟩
    · obtain ⟨i, hi⟩ := List.getElem?_of_mem hchild
      refine ⟨i :: place, c, n, ?_, hkind, rfl⟩
      simp [locate, hi, hplace]

theorem mem_siteOf {header : Header} {s : Site} :
    s ∈ siteOf scope header ↔
      (header.kind.passesInterfaces = true ∧
        s = ⟨scope, header.name, header.interfaces, header.base⟩) ∧ s.parents ≠ [] := by
  unfold siteOf
  split
  · rename_i h
    rw [List.mem_singleton]
    constructor
    · rintro rfl
      simp only [Bool.and_eq_true] at h
      refine ⟨⟨h.1, rfl⟩, ?_⟩
      cases hbase : header.base <;> simp_all [Site.parents]
    · exact fun hs => hs.1.2
  · rename_i h
    refine iff_of_false (by simp) ?_
    rintro ⟨⟨hkind, rfl⟩, hparents⟩
    cases hbase : header.base <;> simp_all [Site.parents]

/-- The index has the declared types that have interfaces or a base. -/
theorem mem_sites {root : Declaration} {s : Site} :
    s ∈ sites scope root ↔ Declares scope root s ∧ s.parents ≠ [] := by
  induction root using Declaration.induction generalizing scope with
  | node header children ih =>
    rw [sites, sitesAll_eq_flatMap, List.mem_append, mem_siteOf, List.mem_flatMap, declares_node,
      or_and_right]
    refine or_congr_right ?_
    constructor
    · rintro ⟨c, hc, hs⟩
      obtain ⟨hdeclares, hparents⟩ := (ih c hc).mp hs
      exact ⟨⟨c, hc, hdeclares⟩, hparents⟩
    · rintro ⟨⟨c, hc, hdeclares⟩, hparents⟩
      exact ⟨c, hc, (ih c hc).mpr ⟨hdeclares, hparents⟩⟩

/-! ## Following as declared -/

/-- A reference in a namespace leads only to what is written at the types declared under the name
that it means. -/
def FollowsDeclared (root : Declaration) (scope : String) (t : TypeName) : Prop :=
  ∀ r, Leads (sites "" root) ⟨t, scope⟩ r →
    ∃ s, Declares "" root s ∧ Means (Declares "" root) scope t s.key ∧ r.type ∈ s.parents

theorem leads_iff {r s : Reference} :
    Leads index r s ↔ ∃ d, resolve? index r.scope r.type = some d ∧
      (s.type ∈ d.interfaces ∨ d.base = some s.type) ∧ s.scope = d.scope := by
  constructor
  · rintro (⟨d, hd, hmem, hscope⟩ | ⟨d, hd, hbase, hscope⟩)
    · exact ⟨d, hd, .inl hmem, hscope⟩
    · exact ⟨d, hd, .inr hbase, hscope⟩
  · rintro ⟨d, hd, hmem | hbase, hscope⟩
    · exact .inl ⟨d, hd, hmem, hscope⟩
    · exact .inr ⟨d, hd, hbase, hscope⟩

/-- A reference is followed as declared exactly when what it means does not change by leaving out
the types without interfaces and base. -/
theorem followsDeclared_iff (root : Declaration) (scope : String) (t : TypeName) :
    FollowsDeclared root scope t ↔
      ∀ key, Means (fun s => Declares "" root s ∧ s.parents ≠ []) scope t key →
        Means (Declares "" root) scope t key := by
  have hindex : (fun s => Declares "" root s ∧ s.parents ≠ []) = (· ∈ sites "" root) :=
    funext fun s => propext mem_sites.symm
  rw [hindex]
  constructor
  · intro hfollows key hmeans
    obtain ⟨d, hd⟩ : ∃ d, declared? (sites "" root) key = some d := by
      rw [← Option.ne_none_iff_exists', ne_eq, declared?_eq_none_iff, not_not]
      exact hmeans.keyed
    -- Something is written at what the reference resolves to, so it leads somewhere.
    obtain ⟨u, hu⟩ := exists_parent_of_declared? (fun s hs => (mem_sites.mp hs).2) hd
    obtain ⟨s, hs, hdeclared, hparent⟩ := hfollows ⟨u, d.scope⟩
      (leads_iff.mpr ⟨d, resolve?_eq_some_iff.mpr ⟨key, hmeans, hd⟩, hu, rfl⟩)
    have hsite : s ∈ sites "" root := mem_sites.mpr ⟨hs, List.ne_nil_of_mem hparent⟩
    have hkey : key = s.key :=
      hmeans.eq_of_imp hdeclared (fun s hs => (mem_sites.mp hs).1) ⟨s, hsite, rfl⟩
    rwa [hkey]
  · intro hmeaning r hr
    obtain ⟨d, hresolve, hmem, -⟩ := leads_iff.mp hr
    obtain ⟨key, hmeans, hd⟩ := resolve?_eq_some_iff.mp hresolve
    obtain ⟨s, hs, rfl, hparent⟩ := exists_site_of_declared? hd hmem
    exact ⟨s, (mem_sites.mp hs).1, hmeaning s.key hmeans, hparent⟩

/-- `Shape` is declared twice, once with nothing to pass on. -/
def shadowed : Declaration :=
  .global [
    .space "Left" [
      .node { kind := .interface, name := "Shape" } [],
      .node { kind := .class, name := "Square", interfaces := [⟨"", "Shape", []⟩] } []],
    .space "Right" [
      .node { kind := .interface, name := "Shape", interfaces := [⟨"", "Printable", []⟩] } []]]

/-- `Shape` means `Left.Shape` in its own namespace, but `Right.Shape` is followed, so `Square` gets
an interface that it does not inherit. -/
theorem not_followsDeclared_shadowed :
    (∃ square, locate "" shadowed [0, 1] = some ("Left", square) ∧
        Starts "Left" square.header ⟨⟨"", "Shape", []⟩, "Left"⟩) ∧
      ¬ FollowsDeclared shadowed "Left" ⟨"", "Shape", []⟩ ∧
      ∃ closed, locate "" shadowed.close [0, 1] = some ("Left", closed) ∧
        TypeName.canonicals closed.header.interfaces = ["Shape", "Printable"] := by
  have hsites : sites "" shadowed =
      [⟨"Left", "Square", [⟨"", "Shape", []⟩], none⟩,
        ⟨"Right", "Shape", [⟨"", "Printable", []⟩], none⟩] := by cbv
  have hshape : Declares "" shadowed ⟨"Left", "Shape", [], none⟩ :=
    ⟨[0, 0], "Left", .node { kind := .interface, name := "Shape" } [], by cbv, rfl, rfl⟩
  have hopen : TypeName.openName ⟨"", "Shape", []⟩ = "Shape" := by cbv
  have hkeyed : Keyed (Declares "" shadowed) "Left.Shape" := ⟨_, hshape, by cbv⟩
  refine ⟨⟨_, rfl, rfl, .inl (by simp)⟩, ?_, _, rfl, by decide +kernel⟩
  intro hfollows
  have hresolve : resolve? (sites "" shadowed) "Left" ⟨"", "Shape", []⟩ =
      some ⟨"Right", [⟨"", "Printable", []⟩], none⟩ := by cbv
  obtain ⟨s, hs, hmeans, hparent⟩ :=
    hfollows ⟨⟨"", "Printable", []⟩, "Right"⟩ (.inl ⟨_, hresolve, by simp, rfl⟩)
  have hright : s.key = "Right.Shape" := by
    have hsite := mem_sites.mpr ⟨hs, List.ne_nil_of_mem hparent⟩
    rw [hsites, List.mem_cons, List.mem_singleton] at hsite
    rcases hsite with rfl | rfl
    · simp [Site.parents] at hparent
    · cbv
  generalize s.key = key at hmeans hright
  cases hmeans with
  | exact => simp [hopen] at hright
  | relative => simp [hopen] at hright
  | bare _ elsewhere =>
    rw [hopen] at elsewhere
    exact elsewhere (by simp) hkeyed

end Inheritance

end DeclTree

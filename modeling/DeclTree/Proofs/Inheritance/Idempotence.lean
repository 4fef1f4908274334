import DeclTree.Load
import DeclTree.Proofs.Declaration.RoundTrip
import DeclTree.Proofs.Inheritance.Resolution

/-!
# Closing a closed tree

The index of a closed tree has the same types as before, each with more interfaces. Closing again
follows all of them, and from the namespace of the declaration that has them now instead of the one
where they were written. This leads nowhere new if every type is declared once and a reference
means the same in every namespace: whatever an enlarged list leads to was reachable step by step
through the lists as they were written, so its name is there already.
-/

open DeclTree.TypeName

namespace DeclTree

namespace Inheritance

/-- A declaration is in a tree, and the second namespace is the one around it if the first is the
one around the tree. -/
def Lies (outer : String) (root : Declaration) (scope : String) (n : Declaration) : Prop :=
  ∃ place, locate outer root place = some (scope, n)

/-- A type stands as an interface or a base at some declaration of a tree. -/
def Written (root : Declaration) (t : TypeName) : Prop :=
  ∃ c n, Lies "" root c n ∧ (t ∈ n.header.interfaces ∨ n.header.base = some t)

/-- Some declaration of a tree lies in a namespace. -/
def Occupied (root : Declaration) (scope : String) : Prop := ∃ n, Lies "" root scope n

/-- No two types with interfaces or a base have one qualified name, and every reference that is
written in the tree means the same in all its namespaces. -/
structure Unequivocal (root : Declaration) : Prop where
  declared_once : ((sites "" root).map Site.key).Nodup
  same_everywhere : ∀ t c d, Written root t → Occupied root c → Occupied root d →
    resolve? (sites "" root) c t = resolve? (sites "" root) d t

theorem lies_node {outer scope : String} {header : Header} {children : List Declaration}
    {n : Declaration} :
    Lies outer (.node header children) scope n ↔
      (scope = outer ∧ n = .node header children) ∨
        ∃ c ∈ children, Lies (scopeBelow outer header) c scope n := by
  constructor
  · rintro ⟨_ | ⟨i, place⟩, hplace⟩
    · cases hplace
      exact .inl ⟨rfl, rfl⟩
    · obtain ⟨c, hc, hplace⟩ := Option.bind_eq_some_iff.mp hplace
      exact .inr ⟨c, List.mem_of_getElem? hc, place, hplace⟩
  · rintro (⟨rfl, rfl⟩ | ⟨c, hc, place, hplace⟩)
    · exact ⟨[], rfl⟩
    · obtain ⟨i, hi⟩ := List.getElem?_of_mem hc
      refine ⟨i :: place, ?_⟩
      rw [locate, Declaration.children_node, hi]
      exact hplace

/-! ## What closing does to the index -/

/-- What a type passes on, as the header of a declaration that has just this. -/
def Inherited.header (d : Inherited) : Header :=
  { kind := .class, name := "", interfaces := d.interfaces, base := d.base }

/-- What a type passes on once its own interfaces are closed. -/
def Inherited.close (index : List Site) (d : Inherited) : Inherited :=
  { d with interfaces := (closeHeader index d.scope d.header).interfaces }

def Site.close (index : List Site) (s : Site) : Site :=
  { s with interfaces := (Inherited.close index ⟨s.scope, s.interfaces, s.base⟩).interfaces }

namespace Closing

theorem run_of_pending_eq_nil {index : List Site} {c : Closing} (h : c.pending = []) (n : Nat) :
    c.run index n = c := by
  cases n with
  | zero => rfl
  | succ n => simp [run, h]

end Closing

theorem closeHeader_of_empty {h : Header} (hinterfaces : h.interfaces = []) (hbase : h.base = none)
    (index : List Site) (scope : String) : (closeHeader index scope h).interfaces = [] := by
  have hpending : (Closing.start scope h).pending = [] := by
    simp [Closing.start, hinterfaces, hbase]
  rw [closeHeader, Closing.run_of_pending_eq_nil hpending]
  exact hinterfaces

/-- Closing neither makes a site nor takes one away. -/
theorem siteOf_closeHeader (index : List Site) (scope : String) (h : Header) :
    siteOf scope (closeHeader index scope h) = (siteOf scope h).map (Site.close index) := by
  have hempty : (!(closeHeader index scope h).interfaces.isEmpty || h.base.isSome) =
      (!h.interfaces.isEmpty || h.base.isSome) := by
    cases hbase : h.base with
    | some base => simp
    | none =>
      cases hinterfaces : h.interfaces with
      | nil => rw [closeHeader_of_empty hinterfaces hbase]
      | cons t ts =>
        obtain ⟨⟨more, hmore, -⟩, -⟩ := closeHeader_interfaces index scope h
        simp [hmore, hinterfaces]
  have hcondition : (h.kind.passesInterfaces &&
      (!(closeHeader index scope h).interfaces.isEmpty || h.base.isSome)) = _ :=
    congrArg (h.kind.passesInterfaces && ·) hempty
  unfold siteOf
  rw [show (closeHeader index scope h).kind = h.kind from rfl,
    show (closeHeader index scope h).base = h.base from rfl, hcondition]
  split
  · rfl
  · rfl

theorem scopeBelow_closeHeader (index : List Site) (scope outer : String) (h : Header) :
    scopeBelow outer (closeHeader index scope h) = scopeBelow outer h := rfl

theorem sites_closeIn (index : List Site) (scope : String) (d : Declaration) :
    sites scope (closeIn index scope d) = (sites scope d).map (Site.close index) := by
  induction d using Declaration.induction generalizing scope with
  | node header children ih =>
    rw [closeIn, sites, sites, siteOf_closeHeader, scopeBelow_closeHeader, closeAllIn_eq_map,
      sitesAll_eq_flatMap, sitesAll_eq_flatMap, List.map_append, List.map_flatMap,
      List.flatMap_map]
    congr 1
    exact List.flatMap_congr fun c hc => ih c hc (scopeBelow scope header)

/-- With one site for every name, closing the sites closes what is declared. -/
theorem declared?_map_close {index : List Site} (honce : (index.map Site.key).Nodup)
    (all : List Site) (key : String) :
    declared? (index.map (Site.close all)) key =
      (declared? index key).map (Inherited.close all) := by
  have hfilter : ((index.map (Site.close all)).filter fun s => s.key == key) =
      (index.filter fun s => s.key == key).map (Site.close all) := List.filter_map
  unfold declared?
  rw [hfilter]
  rcases filter_key_of_once honce key with hsites | ⟨s, hsites⟩
  · rw [hsites]
    rfl
  · rw [hsites]
    simp [Site.close, Inherited.close]

theorem keysOf_map_close (index all : List Site) (name : String) :
    keysOf (index.map (Site.close all)) name = keysOf index name := by
  unfold keysOf
  rw [List.filter_map, List.map_map]
  rfl

/-- A reference has in the closed index what it had before, closed. -/
theorem resolve?_map_close {index : List Site} (honce : (index.map Site.key).Nodup)
    (all : List Site) (scope : String) (t : TypeName) :
    resolve? (index.map (Site.close all)) scope t =
      (resolve? index scope t).map (Inherited.close all) := by
  have hbare : unambiguous? (index.map (Site.close all)) t.name =
      (unambiguous? index t.name).map (Inherited.close all) := by
    unfold unambiguous?
    rw [keysOf_map_close]
    split
    · exact declared?_map_close honce all _
    · rfl
  rw [resolve?, resolve?, hbare, declared?_map_close honce, declared?_map_close honce]
  cases declared? index t.openName with
  | some d => rfl
  | none =>
    simp only [Option.map_none, Option.none_or]
    split
    · rfl
    · exact Option.map_or.symm

theorem resolve?_close {root : Declaration} (h : Unequivocal root) (scope : String)
    (t : TypeName) :
    resolve? (sites "" root.close) scope t =
      (resolve? (sites "" root) scope t).map (Inherited.close (sites "" root)) := by
  rw [Declaration.close, sites_closeIn, resolve?_map_close h.declared_once]

/-! ## The references of a tree -/

variable {root : Declaration} {scope : String} {n : Declaration}

theorem occupied_of_resolve? {t : TypeName} {d : Inherited}
    (h : resolve? (sites "" root) scope t = some d) : Occupied root d.scope := by
  obtain ⟨key, hkey⟩ := exists_declared_of_resolve h
  unfold declared? at hkey
  split at hkey
  · cases hkey
  · rename_i s ss hfilter
    cases hkey
    have hs : s ∈ (sites "" root).filter fun s => s.key == key := by simp [hfilter]
    obtain ⟨⟨place, c, m, hplace, -, rfl⟩, -⟩ := mem_sites.mp (List.mem_filter.mp hs).1
    exact ⟨m, place, hplace⟩

/-- What a reference leads to is written in the tree, and followed from a namespace of the tree. -/
theorem written_of_leads {r s : Reference} (h : Leads (sites "" root) r s) :
    Written root s.type ∧ Occupied root s.scope := by
  obtain ⟨d, hresolve, hmem, hscope⟩ := leads_iff.mp h
  obtain ⟨key, hkey⟩ := exists_declared_of_resolve hresolve
  obtain ⟨u, hu, -, hparent⟩ := exists_site_of_declared? hkey hmem
  obtain ⟨⟨place, c, m, hplace, -, rfl⟩, -⟩ := mem_sites.mp hu
  have hwritten : Written root s.type := ⟨c, m, ⟨place, hplace⟩, Site.mem_parents.mp hparent⟩
  exact ⟨hwritten, hscope ▸ occupied_of_resolve? hresolve⟩

theorem written_of_reachable (hn : Lies "" root scope n)
    {r : Reference} (hr : Reachable (sites "" root) scope n.header r) :
    Written root r.type ∧ Occupied root r.scope := by
  obtain ⟨start, ⟨rfl, hstart⟩, hway⟩ := hr
  cases hway with
  | refl => exact ⟨⟨_, n, hn, hstart⟩, n, hn⟩
  | tail _ hlead => exact written_of_leads hlead

theorem Lies.types_subset {outer : String} {d : Declaration} (h : Lies outer d scope n) :
    n.header.types ⊆ d.types := by
  induction d using Declaration.induction generalizing outer with
  | node header children ih =>
    intro t ht
    rw [Declaration.types_node, List.mem_append, List.mem_flatMap]
    rcases lies_node.mp h with ⟨-, rfl⟩ | ⟨c, hc, h⟩
    · exact .inl ht
    · exact .inr ⟨c, hc, ih c hc h ht⟩

theorem Written.mem_types {t : TypeName} (h : Written root t) : t ∈ root.types := by
  obtain ⟨c, m, hm, hmem⟩ := h
  apply hm.types_subset
  rcases hmem with hmem | hbase
  · simp [Header.types, hmem]
  · simp [Header.types, hbase]

/-- The canonical name of a type that was read tells which type it is. -/
theorem eq_of_same {t u : TypeName} (ht : t.Normal) (hu : u.Normal) (h : t.Same u) : t = u := by
  have hread := parse?_canonical ht
  rw [show t.canonical = u.canonical from h, parse?_canonical hu] at hread
  exact (Option.some.inj hread).symm

theorem Unequivocal.resolvesAlike (h : Unequivocal root) (hnormal : ∀ t ∈ root.types, t.Normal)
    (hn : Lies "" root scope n) : ResolvesAlike (sites "" root) scope n.header := by
  intro r s hr hs hsame
  obtain ⟨hwritten, hoccupied⟩ := written_of_reachable hn hr
  obtain ⟨hwritten', hoccupied'⟩ := written_of_reachable hn hs
  have htype : r.type = s.type :=
    eq_of_same (hnormal _ hwritten.mem_types) (hnormal _ hwritten'.mem_types) hsame
  rw [← htype]
  exact h.same_everywhere r.type r.scope s.scope hwritten hoccupied hoccupied'

/-! ## Closing twice -/

/-- What is reachable from what a reachable reference stands for is reachable. -/
theorem Reachable.through {index : List Site} {h : Header} {r u : Reference} {d : Inherited}
    (hr : Reachable index scope h r) (hd : resolve? index r.scope r.type = some d)
    (hu : Reachable index d.scope d.header u) : Reachable index scope h u := by
  obtain ⟨start, hstart, hway⟩ := hr
  obtain ⟨v, ⟨hscope, hv⟩, hrest⟩ := hu
  have hlead : Leads index r v := leads_iff.mpr ⟨d, hd, hv, hscope⟩
  exact ⟨start, hstart, (hway.tail hlead).trans hrest⟩

/-- The closed interfaces of what a reachable reference stands for are all inherited. -/
theorem Reachable.exists_inherits {index : List Site} {h : Header} {r : Reference} {d : Inherited}
    (hr : Reachable index scope h r) (hd : resolve? index r.scope r.type = some d) {t : TypeName}
    (ht : t ∈ (d.close index).interfaces) : ∃ context, Inherits index scope h ⟨t, context⟩ := by
  obtain ⟨⟨more, hmore, hinherits⟩, -⟩ := closeHeader_interfaces index d.scope d.header
  rw [Inherited.close, hmore, List.mem_append] at ht
  rcases ht with hown | hfar
  · exact ⟨d.scope, r, hr, d, hd, hown, rfl⟩
  · obtain ⟨context, u, hu, hextends⟩ := hinherits t hfar
    exact ⟨context, u, hr.through hd hu, hextends⟩

/-- A reference of the closed tree is followed as one that is reachable in the tree itself. -/
structure Retraced (root : Declaration) (scope : String) (h : Header) (r : Reference) : Prop where
  occupied : Occupied root r.scope
  reachable : ∃ context, Reachable (sites "" root) scope h ⟨r.type, context⟩

theorem Unequivocal.retraced_resolve (h : Unequivocal root) (hn : Lies "" root scope n)
    {r : Reference} (hr : Retraced root scope n.header r) {closed : Inherited}
    (hclosed : resolve? (sites "" root.close) r.scope r.type = some closed) :
    ∃ d context, closed = d.close (sites "" root) ∧
      Reachable (sites "" root) scope n.header ⟨r.type, context⟩ ∧
      resolve? (sites "" root) context r.type = some d := by
  rw [resolve?_close h] at hclosed
  obtain ⟨d, hd, rfl⟩ := Option.map_eq_some_iff.mp hclosed
  obtain ⟨context, hcontext⟩ := hr.reachable
  obtain ⟨hwritten, hoccupied⟩ := written_of_reachable hn hcontext
  refine ⟨d, context, rfl, hcontext, ?_⟩
  rw [← hd]
  exact h.same_everywhere r.type context r.scope hwritten hoccupied hr.occupied

theorem Unequivocal.retraced (h : Unequivocal root) (hn : Lies "" root scope n) {r : Reference}
    (hr : Reachable (sites "" root.close) scope (closeHeader (sites "" root) scope n.header) r) :
    Retraced root scope n.header r := by
  obtain ⟨start, ⟨rfl, hstart⟩, hway⟩ := hr
  induction hway with
  | refl =>
    refine ⟨⟨n, hn⟩, ?_⟩
    rcases hstart with hmem | hbase
    · obtain ⟨⟨more, hmore, hinherits⟩, -⟩ :=
        closeHeader_interfaces (sites "" root) start.scope n.header
      rw [hmore, List.mem_append] at hmem
      rcases hmem with hown | hfar
      · exact ⟨start.scope, start, ⟨rfl, .inl hown⟩, .refl⟩
      · obtain ⟨context, s, hs, hextends⟩ := hinherits _ hfar
        exact ⟨context, hs.next (.inl hextends)⟩
    · exact ⟨start.scope, start, ⟨rfl, .inr hbase⟩, .refl⟩
  | @tail r s _ hlead ih =>
    obtain ⟨closed, hclosed, hmem, hscope⟩ := leads_iff.mp hlead
    obtain ⟨d, context, rfl, hreach, hd⟩ := h.retraced_resolve hn ih hclosed
    have hplain : s.scope = d.scope := hscope
    refine ⟨hplain ▸ occupied_of_resolve? hd, ?_⟩
    rcases hmem with hmem | hbase
    · obtain ⟨inner, u, hu, hextends⟩ := hreach.exists_inherits hd hmem
      exact ⟨inner, hu.next (.inl hextends)⟩
    · exact ⟨d.scope, hreach.next (.inr ⟨d, hd, hbase, rfl⟩)⟩

/-- A closed declaration gets nothing when it is closed again. -/
theorem Unequivocal.closeHeader_closeHeader (h : Unequivocal root)
    (hnormal : ∀ t ∈ root.types, t.Normal) (hn : Lies "" root scope n) :
    closeHeader (sites "" root.close) scope (closeHeader (sites "" root) scope n.header) =
      closeHeader (sites "" root) scope n.header := by
  have hnames := (closeHeader_interfaces (sites "" root) scope n.header).2
    (h.resolvesAlike hnormal hn)
  generalize hclosed : closeHeader (sites "" root) scope n.header = closed at *
  obtain ⟨⟨more, hmore, hinherits⟩, -⟩ := closeHeader_interfaces (sites "" root.close) scope closed
  obtain ⟨fresh, hfresh, hnew⟩ := Closing.run_start_fresh (sites "" root.close) scope closed
    (rounds (sites "" root.close) closed)
  have hsame : fresh = more := List.append_cancel_left (hfresh.symm.trans hmore)
  have hnone : more = [] := by
    apply List.eq_nil_iff_forall_not_mem.mpr
    intro t ht
    obtain ⟨context, r, hr, far, hfar, hmem, -⟩ := hinherits t ht
    obtain ⟨d, inner, rfl, hreach, hd⟩ :=
      h.retraced_resolve hn (h.retraced hn (hclosed ▸ hr)) hfar
    obtain ⟨outer, hinherited⟩ := hreach.exists_inherits hd hmem
    have hname : t.canonical ∈ canonicals closed.interfaces :=
      (hnames t.canonical).mpr (.inr ⟨_, hinherited, rfl⟩)
    exact hnew.new t.canonical (hsame ▸ canonical_mem ht) hname
  rw [hnone, List.append_nil] at hmore
  calc closeHeader (sites "" root.close) scope closed
      = { closed with
          interfaces := (closeHeader (sites "" root.close) scope closed).interfaces } := rfl
    _ = closed := by rw [hmore]

/-- Closing changes nothing as soon as it changes no header. -/
theorem closeIn_closeIn {index again : List Site} {d : Declaration}
    (h : ∀ c n, Lies scope d c n →
      closeHeader again c (closeHeader index c n.header) = closeHeader index c n.header) :
    closeIn again scope (closeIn index scope d) = closeIn index scope d := by
  induction d using Declaration.induction generalizing scope with
  | node header children ih =>
    have hheader := h scope (.node header children) (lies_node.mpr (.inl ⟨rfl, rfl⟩))
    rw [Declaration.header_node] at hheader
    rw [closeIn, closeIn, hheader, scopeBelow_closeHeader, closeAllIn_eq_map, closeAllIn_eq_map,
      List.map_map]
    congr 1
    apply List.map_congr_left
    intro child hchild
    apply ih child hchild
    intro c m hm
    exact h c m (lies_node.mpr (.inr ⟨child, hchild, hm⟩))

theorem types_closeIn {d : Declaration} {index : List Site} {t : TypeName}
    (h : t ∈ (closeIn index scope d).types) :
    t ∈ d.types ∨ ∃ r context, Extends index r ⟨t, context⟩ := by
  induction d using Declaration.induction generalizing scope with
  | node header children ih =>
    obtain ⟨⟨more, hmore, hinherits⟩, -⟩ := closeHeader_interfaces index scope header
    rw [closeIn, closeAllIn_eq_map, Declaration.types_node, List.flatMap_map, List.mem_append,
      List.mem_flatMap] at h
    rw [Declaration.types_node, List.mem_append, List.mem_flatMap]
    rcases h with h | ⟨child, hchild, h⟩
    · have hheader : t ∈ header.types ∨ t ∈ more := by
        simp only [Header.types, closeHeader, List.mem_append] at h hmore ⊢
        rw [hmore, List.mem_append] at h
        tauto
      rcases hheader with hown | hfar
      · exact .inl (.inl hown)
      · obtain ⟨context, r, -, hextends⟩ := hinherits t hfar
        exact .inr ⟨r, context, hextends⟩
    · rcases ih child hchild h with hown | hfar
      · exact .inl (.inr ⟨child, hchild, hown⟩)
      · exact .inr hfar

theorem types_close {t : TypeName} (h : t ∈ root.close.types) : t ∈ root.types := by
  rcases types_closeIn h with hown | ⟨r, context, hextends⟩
  · exact hown
  · exact (written_of_leads (.inl hextends)).1.mem_types

end Inheritance

namespace Declaration

open Inheritance

/-- Closing a closed tree leaves it as it is, and so does writing and loading it. -/
theorem close_close_eq {root : Declaration}
    (htypes : ∀ t ∈ root.types, ∃ text, TypeName.parse text = .ok t) (h : Unequivocal root) :
    root.close.close = root.close ∧
      (Json.textNesting root.close.toText ≤ 127 →
        Load.ofText root.close.toText = .ok root.close) := by
  have hnormal : ∀ t ∈ root.types, t.Normal := by
    intro t ht
    obtain ⟨text, htext⟩ := htypes t ht
    exact TypeName.normal_of_parse? (TypeName.parse_eq_ok.mp htext)
  have htwice : root.close.close = root.close :=
    closeIn_closeIn fun c n hn => h.closeHeader_closeHeader hnormal hn
  refine ⟨htwice, ?_⟩
  intro hnesting
  rw [Load.ofText, Declaration.ofText_toText fun t ht => hnormal t (types_close ht),
    if_pos hnesting]
  exact congrArg Except.ok htwice

/-- Two interfaces that extend each other, and in another namespace two classes with each other as
base, one of which has one of the interfaces. -/
def crossing : Declaration :=
  .global [
    .space "Io" [
      .node { kind := .interface, name := "Reader", interfaces := [⟨"", "Writer", []⟩] } [],
      .node { kind := .interface, name := "Writer", interfaces := [⟨"", "Reader", []⟩] } []],
    .space "Net" [
      .node { kind := .class, name := "Pipe", interfaces := [⟨"Io", "Reader", []⟩],
              base := some ⟨"", "Stream", []⟩ } [],
      .node { kind := .class, name := "Stream", base := some ⟨"", "Pipe", []⟩ } []]]

def crossingTypes : List TypeName :=
  [⟨"", "Writer", []⟩, ⟨"", "Reader", []⟩, ⟨"Io", "Reader", []⟩, ⟨"", "Stream", []⟩,
    ⟨"", "Pipe", []⟩]

theorem lies_crossing {c : String} {n : Declaration} (h : Lies "" crossing c n) :
    c ∈ ["", "Io", "Net"] ∧
      ∀ t, t ∈ n.header.interfaces ∨ n.header.base = some t → t ∈ crossingTypes := by
  simp only [crossing, global, space, lies_node, scopeBelow, qualify, List.mem_cons,
    List.not_mem_nil, or_false, exists_eq_or_imp, exists_eq_left, false_and, exists_false] at h
  rcases h with ⟨rfl, rfl⟩ | (⟨rfl, rfl⟩ | ⟨rfl, rfl⟩ | ⟨rfl, rfl⟩) |
    ⟨rfl, rfl⟩ | ⟨rfl, rfl⟩ | ⟨rfl, rfl⟩ <;> simp [crossingTypes, or_imp, forall_and]

theorem unequivocal_crossing : Unequivocal crossing := by
  have hmeaning : ∀ t ∈ crossingTypes, ∀ c ∈ ["", "Io", "Net"],
      resolve? (sites "" crossing) c t = resolve? (sites "" crossing) "" t := by
    simp only [crossingTypes, List.forall_mem_cons, List.not_mem_nil, false_imp_iff, implies_true,
      and_true, true_and]
    refine ⟨⟨?_, ?_⟩, ⟨?_, ?_⟩, ⟨?_, ?_⟩, ⟨?_, ?_⟩, ⟨?_, ?_⟩⟩ <;> cbv
  refine ⟨by decide +kernel, ?_⟩
  rintro t c d ⟨e, n, hn, ht⟩ ⟨m, hm⟩ ⟨k, hk⟩
  have hmem := (lies_crossing hn).2 t ht
  rw [hmeaning t hmem c (lies_crossing hm).1, hmeaning t hmem d (lies_crossing hk).1]

theorem close_close_crossing :
    (∀ t ∈ crossing.types, ∃ text, TypeName.parse text = .ok t) ∧ Unequivocal crossing ∧
      crossing.close.close = crossing.close ∧
      Load.ofText crossing.close.toText = .ok crossing.close := by
  have htypes : ∀ t ∈ crossing.types, ∃ text, TypeName.parse text = .ok t := by
    have hlist : crossing.types ⊆ crossingTypes := by
      simp [crossing, global, space, types_node, Header.types, crossingTypes]
    have hparse : ∀ t ∈ crossingTypes, TypeName.parse t.canonical = .ok t := by
      simp only [crossingTypes, List.forall_mem_cons, List.not_mem_nil, false_imp_iff,
        implies_true, and_true]
      refine ⟨?_, ?_, ?_, ?_, ?_⟩ <;> cbv
    exact fun t ht => ⟨t.canonical, hparse t (hlist ht)⟩
  have hnesting : Json.textNesting crossing.close.toText ≤ 127 := by
    rw [toText, Json.textNesting_compact crossing.close.writable_toJson]
    decide +kernel
  obtain ⟨htwice, hload⟩ := close_close_eq htypes unequivocal_crossing
  exact ⟨htypes, unequivocal_crossing, htwice, hload hnesting⟩

end Declaration

end DeclTree

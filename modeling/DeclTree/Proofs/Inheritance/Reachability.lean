import DeclTree.Proofs.Inheritance.Closing
import Mathlib

/-!
# Closing reaches inherited interfaces

A reference leads to the references written at what it resolves to, followed from there. The
interfaces a declaration inherits are those at the end of such a way from its own interfaces or its
base, the last step being to an interface. Closing adds nothing else. It adds all of them as long
as the canonical name of a reachable reference decides what it resolves to: names are met once, so
of two references of one name only the first is followed.
-/

open DeclTree.TypeName

namespace DeclTree

namespace Inheritance

/-- The second reference is an interface written at what the first resolves to. -/
def Extends (index : List Site) (r s : Reference) : Prop :=
  ∃ d, resolve? index r.scope r.type = some d ∧ s.type ∈ d.interfaces ∧ s.scope = d.scope

/-- The second reference is the base written at what the first resolves to. -/
def Derives (index : List Site) (r s : Reference) : Prop :=
  ∃ d, resolve? index r.scope r.type = some d ∧ d.base = some s.type ∧ s.scope = d.scope

def Leads (index : List Site) (r s : Reference) : Prop := Extends index r s ∨ Derives index r s

/-- A reference written at a declaration in a namespace. -/
def Starts (scope : String) (h : Header) (r : Reference) : Prop :=
  r.scope = scope ∧ (r.type ∈ h.interfaces ∨ h.base = some r.type)

def Reachable (index : List Site) (scope : String) (h : Header) (r : Reference) : Prop :=
  ∃ s, Starts scope h s ∧ Relation.ReflTransGen (Leads index) s r

/-- An interface that a declaration in a namespace inherits. -/
def Inherits (index : List Site) (scope : String) (h : Header) (r : Reference) : Prop :=
  ∃ s, Reachable index scope h s ∧ Extends index s r

/-- Reachable references of one canonical name resolve to the same, or neither resolves. -/
def ResolvesAlike (index : List Site) (scope : String) (h : Header) : Prop :=
  ∀ r s, Reachable index scope h r → Reachable index scope h s → r.type.Same s.type →
    resolve? index r.scope r.type = resolve? index s.scope s.type

theorem Reachable.next {index : List Site} {scope : String} {h : Header} {r s : Reference}
    (hr : Reachable index scope h r) (hrs : Leads index r s) : Reachable index scope h s := by
  obtain ⟨start, hstart, hway⟩ := hr
  exact ⟨start, hstart, hway.tail hrs⟩

/-! ## The invariant of closing -/

/-- Where closing a declaration stands when the references in `followed` have been followed. -/
structure Progress (index : List Site) (scope : String) (h : Header) (followed : List Reference)
    (c : Closing) : Prop where
  reached : ∀ r ∈ followed ++ c.pending, Reachable index scope h r
  started : ∀ r, Starts scope h r → r ∈ followed ++ c.pending
  appended : ∃ more, c.interfaces = h.interfaces ++ more ∧
    ∀ t ∈ more, ∃ context, Inherits index scope h ⟨t, context⟩
  interface_met : ∀ name ∈ canonicals c.interfaces,
    ∃ r ∈ followed ++ c.pending, r.type.canonical = name
  base_met : ∀ name ∈ c.bases, ∃ r ∈ followed ++ c.pending, r.type.canonical = name
  interfaces_taken : ∀ r ∈ followed, ∀ s, Extends index r s →
    s.type.canonical ∈ canonicals c.interfaces
  base_taken : ∀ r ∈ followed, ∀ s, Derives index r s → s.type.canonical ∈ c.bases

theorem progress_start (index : List Site) (scope : String) (h : Header) :
    Progress index scope h [] (.start scope h) := by
  have hpending : ∀ r, r ∈ (Closing.start scope h).pending ↔ Starts scope h r := by
    intro r
    simp only [Closing.start, List.mem_map, List.mem_reverse, List.mem_append, Starts,
      Option.mem_toList]
    constructor
    · rintro ⟨t, ht, rfl⟩
      exact ⟨rfl, ht⟩
    · rintro ⟨rfl, ht⟩
      exact ⟨r.type, ht, rfl⟩
  refine ⟨?_, ?_, ⟨[], ?_⟩, ?_, ?_, ?_, ?_⟩
  · intro r hr
    exact ⟨r, (hpending r).mp hr, .refl⟩
  · intro r hr
    exact (hpending r).mpr hr
  · simp [Closing.start]
  · intro name hname
    obtain ⟨t, ht, rfl⟩ := List.mem_map.mp hname
    exact ⟨⟨t, scope⟩, (hpending _).mpr ⟨rfl, .inl ht⟩, rfl⟩
  · simp [Closing.start]
  · simp
  · simp

/-- A round seen from the reference it follows: what is taken in is what the reference leads to. -/
theorem exists_followed_step (index : List Site) {c : Closing} {r : Reference}
    {rest : List Reference} (hpending : c.pending = r :: rest) :
    ∃ fresh based context,
      (c.step index).interfaces = c.interfaces ++ fresh ∧
      (c.step index).bases = canonicals based ++ c.bases ∧
      (c.step index).pending = (based ++ fresh.reverse).map (⟨·, context⟩) ++ rest ∧
      (∀ t ∈ fresh, Extends index r ⟨t, context⟩) ∧
      (∀ t ∈ based, Derives index r ⟨t, context⟩) ∧
      (∀ s, Extends index r s → s.type.canonical ∈ canonicals (c.step index).interfaces) ∧
      ∀ s, Derives index r s → s.type.canonical ∈ (c.step index).bases := by
  rcases Closing.step_cases index hpending with ⟨hnone, hstep⟩ | ⟨d, fresh, based, hd, htakes⟩
  · refine ⟨[], [], r.scope, by simp [hstep], by simp [hstep], by simp [hstep], by simp, by simp,
      ?_, ?_⟩
    · rintro s ⟨d, hd, -⟩
      simp [hnone] at hd
    · rintro s ⟨d, hd, -⟩
      simp [hnone] at hd
  · refine ⟨fresh, based, d.scope, htakes.interfaces, htakes.bases, htakes.pending, ?_, ?_, ?_, ?_⟩
    · intro t ht
      exact ⟨d, hd, htakes.fresh_sublist.subset ht, rfl⟩
    · intro t ht
      exact ⟨d, hd, htakes.based_mem t ht, rfl⟩
    · rintro s ⟨e, he, hmem, -⟩
      cases hd.symm.trans he
      exact htakes.interfaces_met s.type hmem
    · rintro s ⟨e, he, hbase, -⟩
      cases hd.symm.trans he
      exact htakes.base_met s.type hbase

theorem Progress.step {index : List Site} {scope : String} {h : Header}
    {followed : List Reference} {c : Closing} {r : Reference} {rest : List Reference}
    (hc : Progress index scope h followed c) (hpending : c.pending = r :: rest) :
    Progress index scope h (r :: followed) (c.step index) := by
  obtain ⟨fresh, based, context, hinterfaces, hbases, hstack, hfresh, hbased, hextends, hderives⟩ :=
    exists_followed_step index hpending
  have hr : Reachable index scope h r := hc.reached r (by simp [hpending])
  -- What was followed or pending before is so afterwards.
  have hkept : ∀ s ∈ followed ++ c.pending, s ∈ (r :: followed) ++ (c.step index).pending := by
    intro s hs
    simp only [hpending, hstack, List.mem_append, List.mem_cons] at hs ⊢
    tauto
  refine ⟨?_, fun s hs => hkept s (hc.started s hs), ?_, ?_, ?_, ?_, ?_⟩
  · intro s hs
    simp only [hstack, List.mem_append, List.mem_cons, List.mem_map, List.mem_reverse] at hs
    rcases hs with (rfl | hs) | ⟨t, ht | ht, rfl⟩ | hs
    · exact hr
    · exact hc.reached s (by simp [hs])
    · exact hr.next (.inr (hbased t ht))
    · exact hr.next (.inl (hfresh t ht))
    · exact hc.reached s (by simp [hpending, hs])
  · obtain ⟨more, hmore, hinherits⟩ := hc.appended
    refine ⟨more ++ fresh, by rw [hinterfaces, hmore, List.append_assoc], ?_⟩
    intro t ht
    rcases List.mem_append.mp ht with ht | ht
    · exact hinherits t ht
    · exact ⟨context, r, hr, hfresh t ht⟩
  · intro name hname
    rw [hinterfaces, canonicals_append, List.mem_append] at hname
    rcases hname with hname | hname
    · obtain ⟨s, hs, rfl⟩ := hc.interface_met name hname
      exact ⟨s, hkept s hs, rfl⟩
    · obtain ⟨t, ht, rfl⟩ := List.mem_map.mp hname
      exact ⟨⟨t, context⟩, by simp [hstack, ht], rfl⟩
  · intro name hname
    rw [hbases, List.mem_append] at hname
    rcases hname with hname | hname
    · obtain ⟨t, ht, rfl⟩ := List.mem_map.mp hname
      exact ⟨⟨t, context⟩, by simp [hstack, ht], rfl⟩
    · obtain ⟨s, hs, rfl⟩ := hc.base_met name hname
      exact ⟨s, hkept s hs, rfl⟩
  · intro s hs t ht
    rcases List.mem_cons.mp hs with rfl | hs
    · exact hextends t ht
    · rw [hinterfaces, canonicals_append, List.mem_append]
      exact .inl (hc.interfaces_taken s hs t ht)
  · intro s hs t ht
    rcases List.mem_cons.mp hs with rfl | hs
    · exact hderives t ht
    · rw [hbases, List.mem_append]
      exact .inr (hc.base_taken s hs t ht)

theorem progress_run (index : List Site) (scope : String) (h : Header) (n : Nat) :
    ∃ followed, Progress index scope h followed ((Closing.start scope h).run index n) := by
  refine Closing.run_keeps (P := fun c => ∃ followed, Progress index scope h followed c) ?_ n
    ⟨[], progress_start index scope h⟩
  rintro c hpending ⟨followed, hc⟩
  obtain ⟨r, rest, hrest⟩ := List.exists_cons_of_ne_nil hpending
  exact ⟨r :: followed, hc.step hrest⟩

/-- With nothing pending, a followed reference of its name stands for each reachable one. -/
theorem Progress.exists_followed {index : List Site} {scope : String} {h : Header}
    {followed : List Reference} {c : Closing} (hc : Progress index scope h followed c)
    (hpending : c.pending = []) (halike : ResolvesAlike index scope h) {r : Reference}
    (hr : Reachable index scope h r) : ∃ s ∈ followed, s.type.Same r.type := by
  obtain ⟨start, hstart, hway⟩ := hr
  induction hway with
  | refl => exact ⟨start, by simpa [hpending] using hc.started start hstart, .refl _⟩
  | @tail r t hway hlead ih =>
    obtain ⟨s, hs, hsame⟩ := ih
    have hsr := halike s r (hc.reached s (by simp [hs])) ⟨start, hstart, hway⟩ hsame
    -- The representative resolves to the same, so it leads to the same reference.
    have hmet : ∃ u ∈ followed ++ c.pending, u.type.canonical = t.type.canonical := by
      rcases hlead with ⟨d, hd, hmem⟩ | ⟨d, hd, hbase⟩
      · exact hc.interface_met _ (hc.interfaces_taken s hs t ⟨d, hsr.trans hd, hmem⟩)
      · exact hc.base_met _ (hc.base_taken s hs t ⟨d, hsr.trans hd, hbase⟩)
    obtain ⟨u, hu, hut⟩ := hmet
    exact ⟨u, by simpa [hpending] using hu, hut⟩

/-- What a declaration gets when closed: its own interfaces first and behind them only inherited
ones, and every name of an inherited one if names decide. -/
theorem closeHeader_interfaces (index : List Site) (scope : String) (h : Header) :
    (∃ more, (closeHeader index scope h).interfaces = h.interfaces ++ more ∧
      ∀ t ∈ more, ∃ context, Inherits index scope h ⟨t, context⟩) ∧
    (ResolvesAlike index scope h → ∀ name,
      name ∈ canonicals (closeHeader index scope h).interfaces ↔
        name ∈ canonicals h.interfaces ∨
          ∃ r, Inherits index scope h r ∧ r.type.canonical = name) := by
  obtain ⟨followed, hc⟩ := progress_run index scope h (rounds index h)
  have hpending := Closing.pending_run_start index scope h
  obtain ⟨more, hmore, hinherits⟩ := hc.appended
  refine ⟨⟨more, hmore, hinherits⟩, ?_⟩
  intro halike name
  constructor
  · intro hname
    rw [closeHeader, hmore, canonicals_append, List.mem_append] at hname
    rcases hname with hname | hname
    · exact .inl hname
    · obtain ⟨t, ht, rfl⟩ := List.mem_map.mp hname
      obtain ⟨context, hcontext⟩ := hinherits t ht
      exact .inr ⟨⟨t, context⟩, hcontext, rfl⟩
  · rintro (hname | ⟨r, ⟨s, hs, d, hd, hmem⟩, rfl⟩)
    · rw [closeHeader, hmore, canonicals_append, List.mem_append]
      exact .inl hname
    · obtain ⟨u, hu, hsame⟩ := hc.exists_followed hpending halike hs
      have hus := halike u s (hc.reached u (by simp [hu])) hs hsame
      exact hc.interfaces_taken u hu r ⟨d, hus.trans hd, hmem⟩

/-! ## Closing a tree -/

/-- The declaration at a place of a tree that lies in a namespace itself, and the namespace it lies
in. -/
def locate : String → Declaration → List Nat → Option (String × Declaration)
  | scope, d, [] => some (scope, d)
  | scope, d, i :: place =>
    d.children[i]?.bind fun c => locate (scopeBelow scope d.header) c place

theorem locate_closeIn (index : List Site) (scope : String) (d : Declaration) (place : List Nat) :
    locate scope (closeIn index scope d) place =
      (locate scope d place).map fun found => (found.1, closeIn index found.1 found.2) := by
  induction place generalizing scope d with
  | nil => simp [locate]
  | cons i place ih =>
    obtain ⟨header, children⟩ := d
    rw [closeIn, closeAllIn_eq_map, locate, locate, Declaration.children_node,
      Declaration.children_node, List.getElem?_map]
    cases children[i]? with
    | none => rfl
    | some c => exact ih (scopeBelow scope header) c

/-- Closing a tree appends to each declaration only interfaces it inherits, and all their names as
soon as reachable references of one name resolve alike. -/
theorem close_appends_inherited {root : Declaration} {place : List Nat} {scope : String}
    {n : Declaration} (h : locate "" root place = some (scope, n)) :
    ∃ closed, locate "" root.close place = some (scope, closed) ∧
      (∃ more, closed.header.interfaces = n.header.interfaces ++ more ∧
        ∀ t ∈ more, ∃ context, Inherits (sites "" root) scope n.header ⟨t, context⟩) ∧
      (ResolvesAlike (sites "" root) scope n.header → ∀ name,
        name ∈ canonicals closed.header.interfaces ↔
          name ∈ canonicals n.header.interfaces ∨
            ∃ r, Inherits (sites "" root) scope n.header r ∧ r.type.canonical = name) := by
  refine ⟨closeIn (sites "" root) scope n, ?_, ?_⟩
  · rw [Declaration.close, locate_closeIn, h]
    rfl
  · obtain ⟨header, children⟩ := n
    rw [closeIn]
    exact closeHeader_interfaces (sites "" root) scope header

/-! ## Two trees -/

/-- All that a reference leads to. -/
def onward (index : List Site) (r : Reference) : List Reference :=
  (resolve? index r.scope r.type).elim [] fun d =>
    (d.interfaces ++ d.base.toList).map (⟨·, d.scope⟩)

theorem mem_onward {index : List Site} {r s : Reference} (h : Leads index r s) :
    s ∈ onward index r := by
  obtain ⟨t, scope⟩ := s
  rcases h with ⟨d, hd, hmem, rfl⟩ | ⟨d, hd, hbase, rfl⟩
  · simp only [onward, hd, Option.elim_some, List.mem_map, List.mem_append]
    exact ⟨t, .inl hmem, rfl⟩
  · simp only [onward, hd, Option.elim_some, List.mem_map, List.mem_append]
    exact ⟨t, .inr (by simp [hbase]), rfl⟩

/-- A list with the references written at a declaration, and with all that its members lead to, has
every reachable reference. -/
theorem Reachable.mem {index : List Site} {scope : String} {h : Header} {known : List Reference}
    (hstart : ∀ r, Starts scope h r → r ∈ known) (honward : ∀ r ∈ known, onward index r ⊆ known)
    {r : Reference} (hr : Reachable index scope h r) : r ∈ known := by
  obtain ⟨start, hs, hway⟩ := hr
  induction hway with
  | refl => exact hstart start hs
  | tail hway hlead ih => exact honward _ ih (mem_onward hlead)

/-- Two classes with each other as base, of which one has an interface, and two interfaces that
extend each other. -/
def entangled : Declaration :=
  .global [
    .node { kind := .interface, name := "Reader", interfaces := [⟨"", "Writer", []⟩] } [],
    .node { kind := .interface, name := "Writer", interfaces := [⟨"", "Reader", []⟩] } [],
    .node { kind := .class, name := "Stream", base := some ⟨"", "Pipe", []⟩ } [],
    .node { kind := .class, name := "Pipe", interfaces := [⟨"", "Reader", []⟩],
            base := some ⟨"", "Stream", []⟩ } []]

def stream : Declaration :=
  .node { kind := .class, name := "Stream", base := some ⟨"", "Pipe", []⟩ } []

theorem resolvesAlike_stream : ResolvesAlike (sites "" entangled) "" stream.header := by
  have hknown : ∀ r, Reachable (sites "" entangled) "" stream.header r →
      r ∈ ["Pipe", "Stream", "Reader", "Writer"].map fun name => ⟨⟨"", name, []⟩, ""⟩ := by
    intro r hr
    refine hr.mem ?_ ?_
    · rintro ⟨t, scope⟩ ⟨rfl, hmem | hbase⟩
      · simp [stream] at hmem
      · cases hbase
        simp
    · have hpipe : onward (sites "" entangled) ⟨⟨"", "Pipe", []⟩, ""⟩ =
          [⟨⟨"", "Reader", []⟩, ""⟩, ⟨⟨"", "Stream", []⟩, ""⟩] := by cbv
      have hstream : onward (sites "" entangled) ⟨⟨"", "Stream", []⟩, ""⟩ =
          [⟨⟨"", "Pipe", []⟩, ""⟩] := by cbv
      have hreader : onward (sites "" entangled) ⟨⟨"", "Reader", []⟩, ""⟩ =
          [⟨⟨"", "Writer", []⟩, ""⟩] := by cbv
      have hwriter : onward (sites "" entangled) ⟨⟨"", "Writer", []⟩, ""⟩ =
          [⟨⟨"", "Reader", []⟩, ""⟩] := by cbv
      simp [hpipe, hstream, hreader, hwriter]
  intro r s hr hs hsame
  obtain ⟨a, -, rfl⟩ := List.mem_map.mp (hknown r hr)
  obtain ⟨b, -, rfl⟩ := List.mem_map.mp (hknown s hs)
  have hab : a = b := by simpa [Same, canonical] using hsame
  rw [hab]

theorem close_entangled :
    locate "" entangled [2] = some ("", stream) ∧
      ResolvesAlike (sites "" entangled) "" stream.header ∧
      ∃ closed, locate "" entangled.close [2] = some ("", closed) ∧
        (∃ more, closed.header.interfaces = stream.header.interfaces ++ more ∧
          ∀ t ∈ more, ∃ context,
            Inherits (sites "" entangled) "" stream.header ⟨t, context⟩) ∧
        ∀ name, name ∈ canonicals closed.header.interfaces ↔
          name ∈ canonicals stream.header.interfaces ∨
            ∃ r, Inherits (sites "" entangled) "" stream.header r ∧ r.type.canonical = name := by
  have hplace : locate "" entangled [2] = some ("", stream) := rfl
  obtain ⟨closed, hclosed, hmore, hnames⟩ := close_appends_inherited hplace
  exact ⟨hplace, resolvesAlike_stream, closed, hclosed, hmore, hnames resolvesAlike_stream⟩

/-- `Shape` is written once where it resolves and once where two types of that name are declared. -/
def namesakes : Declaration :=
  .global [
    .space "Left" [
      .node { kind := .interface, name := "Shape", interfaces := [⟨"", "Drawable", []⟩] } [],
      .node { kind := .interface, name := "Square", interfaces := [⟨"", "Shape", []⟩] } []],
    .space "Right" [
      .node { kind := .interface, name := "Shape", interfaces := [⟨"", "Printable", []⟩] } []],
    .node { kind := .class, name := "Canvas",
            interfaces := [⟨"Left", "Square", []⟩, ⟨"", "Shape", []⟩] } []]

def canvas : Declaration :=
  .node { kind := .class, name := "Canvas",
          interfaces := [⟨"Left", "Square", []⟩, ⟨"", "Shape", []⟩] } []

/-- A reference that resolves to nothing hides one of its name that does: no two references of one
name resolve to different types, and yet an inherited interface is missing. -/
theorem close_misses_behind_unresolved :
    locate "" namesakes [2] = some ("", canvas) ∧
      (∀ r s d e, Reachable (sites "" namesakes) "" canvas.header r →
        Reachable (sites "" namesakes) "" canvas.header s → r.type.Same s.type →
        resolve? (sites "" namesakes) r.scope r.type = some d →
        resolve? (sites "" namesakes) s.scope s.type = some e → d = e) ∧
      ∃ closed, locate "" namesakes.close [2] = some ("", closed) ∧
        ∃ r, Inherits (sites "" namesakes) "" canvas.header r ∧
          r.type.canonical ∉ canonicals closed.header.interfaces := by
  have hsquare : resolve? (sites "" namesakes) "" ⟨"Left", "Square", []⟩ =
      some ⟨"Left", [⟨"", "Shape", []⟩], none⟩ := by cbv
  have hleft : resolve? (sites "" namesakes) "Left" ⟨"", "Shape", []⟩ =
      some ⟨"Left", [⟨"", "Drawable", []⟩], none⟩ := by cbv
  have houter : resolve? (sites "" namesakes) "" ⟨"", "Shape", []⟩ = none := by cbv
  have hdrawable : resolve? (sites "" namesakes) "Left" ⟨"", "Drawable", []⟩ = none := by cbv
  have hknown : ∀ r, Reachable (sites "" namesakes) "" canvas.header r →
      r ∈ ([⟨⟨"Left", "Square", []⟩, ""⟩, ⟨⟨"", "Shape", []⟩, ""⟩, ⟨⟨"", "Shape", []⟩, "Left"⟩,
        ⟨⟨"", "Drawable", []⟩, "Left"⟩] : List Reference) := by
    intro r hr
    refine hr.mem ?_ ?_
    · rintro ⟨t, scope⟩ ⟨rfl, hmem | hbase⟩
      · simp only [canvas, Declaration.header_node, List.mem_cons, List.not_mem_nil,
          or_false] at hmem
        rcases hmem with rfl | rfl <;> simp
      · simp [canvas] at hbase
    · simp [onward, hsquare, hleft, houter, hdrawable]
  refine ⟨rfl, ?_, ?_⟩
  · intro r s d e hr hs hsame hd he
    have hr := hknown r hr
    have hs := hknown s hs
    simp only [List.mem_cons, List.not_mem_nil, or_false] at hr hs
    rcases hr with rfl | rfl | rfl | rfl <;> rcases hs with rfl | rfl | rfl | rfl <;>
      simp_all [Same, canonical]
  · have hinherits : Inherits (sites "" namesakes) "" canvas.header
        ⟨⟨"", "Drawable", []⟩, "Left"⟩ := by
      refine ⟨⟨⟨"", "Shape", []⟩, "Left"⟩, ?_, ⟨_, hleft, by simp, rfl⟩⟩
      refine ⟨⟨⟨"Left", "Square", []⟩, ""⟩, ⟨rfl, .inl (by simp [canvas])⟩, .single ?_⟩
      exact .inl ⟨_, hsquare, by simp, rfl⟩
    refine ⟨_, rfl, _, hinherits, ?_⟩
    decide +kernel

end Inheritance

end DeclTree

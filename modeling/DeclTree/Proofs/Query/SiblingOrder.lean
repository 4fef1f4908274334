import DeclTree.Proofs.Inheritance.Idempotence
import DeclTree.Proofs.Query.ClosedTrees

/-!
# The order of siblings

Trees are kept, indexed and walked as lists, but the order in which declarations stand side by side
means nothing, type parameters apart. If every type that has interfaces or a base has a qualified
name of its own, the index of a tree finds the same under every name however its sites are ordered.
So every declaration is closed alike, the closed trees differ by the order of siblings only, and a
query finds the same in both as often.
-/

open DeclTree.Inheritance

namespace DeclTree

namespace Declaration

/-- The second declaration is the first with siblings in another order, at any depth. The type
parameters of a declaration stay in order, since its qualified name lists them. -/
inductive Rearranged : Declaration → Declaration → Prop
  | node (header : Header) {children moved others : List Declaration}
      (inside : List.Forall₂ Rearranged children moved) (order : moved.Perm others)
      (parameters : (Declaration.node header moved).typeParameters =
        (Declaration.node header others).typeParameters) :
      Rearranged (.node header children) (.node header others)

namespace Rearranged

variable {d e : Declaration}

theorem header_eq (h : d.Rearranged e) : d.header = e.header := by
  cases h
  rfl

protected theorem refl (d : Declaration) : d.Rearranged d := by
  induction d using Declaration.induction with
  | node header children ih => exact .node header (List.forall₂_same.mpr ih) (.refl _) rfl

theorem length_children (h : d.Rearranged e) : d.children.length = e.children.length := by
  cases h with
  | node _ inside order => exact inside.length_eq.trans order.length_eq

theorem map_header {children moved : List Declaration}
    (h : List.Forall₂ Rearranged children moved) : children.map header = moved.map header := by
  induction h with
  | nil => rfl
  | cons hce _ ih => rw [List.map_cons, List.map_cons, hce.header_eq, ih]

theorem face_eq (h : d.Rearranged e) : d.face = e.face := by
  cases h with
  | @node header children moved others inside order parameters =>
    -- Which children are type parameters, and how a query sees them, is written in their headers.
    have hheaders : ∀ ds : List Declaration, (Declaration.node header ds).face =
        ({ header with interfaces := [] },
          ((ds.map Declaration.header).filter fun h => h.kind == .typeParameter).map
            fun h => (h.name, h.constraints)) := by
      intro ds
      rw [List.filter_map, List.map_map]
      rfl
    calc (Declaration.node header children).face = (Declaration.node header moved).face := by
          rw [hheaders, hheaders, map_header inside]
      _ = (Declaration.node header others).face := by
          rw [face, parameters]
          rfl

/-- What is gathered from siblings is the same in another order, if it is so for each of them. -/
theorem flatMap_perm {α : Type} {f : Declaration → List α}
    {children moved others : List Declaration}
    (inside : List.Forall₂ Rearranged children moved) (order : moved.Perm others)
    (h : ∀ c ∈ children, ∀ m ∈ others, c.Rearranged m → (f c).Perm (f m)) :
    (children.flatMap f).Perm (others.flatMap f) := by
  have hmoved : ∀ c ∈ children, ∀ m ∈ moved, c.Rearranged m → (f c).Perm (f m) :=
    fun c hc m hm => h c hc m (order.mem_iff.mp hm)
  refine List.Perm.trans ?_ (order.flatMap_right f)
  clear h order
  induction inside with
  | nil => exact .refl _
  | @cons c m cs ms hcm _ ih =>
    rw [List.flatMap_cons, List.flatMap_cons]
    apply List.Perm.append
    · exact hmoved c (by simp) m (by simp) hcm
    · exact ih fun c' hc' m' hm' => hmoved c' (by simp [hc']) m' (by simp [hm'])

theorem sites_perm (h : d.Rearranged e) (scope : String) :
    (sites scope d).Perm (sites scope e) := by
  induction d using Declaration.induction generalizing e scope with
  | node header children ih =>
    cases h with
    | node _ inside order =>
      rw [sites, sites, sitesAll_eq_flatMap, sitesAll_eq_flatMap]
      apply List.Perm.append_left
      exact flatMap_perm inside order fun c hc m _ hcm => ih c hc hcm _

/-- Closed with the same index, rearranged declarations stay so. -/
theorem closeIn (h : d.Rearranged e) (index : List Site) (scope : String) :
    (Inheritance.closeIn index scope d).Rearranged (Inheritance.closeIn index scope e) := by
  induction d using Declaration.induction generalizing e scope with
  | node header children ih =>
    cases h with
    | @node _ _ moved others inside order parameters =>
      have hkind : ∀ c : Declaration,
          (Inheritance.closeIn index (scopeBelow scope header) c).kind = c.kind := by
        intro c
        rw [Declaration.kind, header_closeIn]
        rfl
      rw [Inheritance.closeIn, Inheritance.closeIn, closeAllIn_eq_map, closeAllIn_eq_map]
      refine .node _ ?_ (order.map _) ?_
      · rw [List.forall₂_map_left_iff, List.forall₂_map_right_iff]
        clear order parameters
        induction inside with
        | nil => exact .nil
        | @cons c m cs ms hcm _ ihs =>
          refine .cons (ih c (by simp) hcm _) (ihs ?_)
          exact fun c' hc' => ih c' (by simp [hc'])
      · rw [typeParameters_map hkind header, typeParameters_map hkind header, parameters]

end Rearranged

end Declaration

/-! ## Closing -/

namespace Inheritance

variable {index other : List Site}

theorem declared?_perm (honce : (index.map Site.key).Nodup) (hperm : index.Perm other)
    (key : String) : declared? index key = declared? other key := by
  have hfilter := hperm.filter fun s => s.key == key
  have hsame : (index.filter fun s => s.key == key) = other.filter fun s => s.key == key := by
    rcases filter_key_of_once honce key with hsites | ⟨s, hsites⟩
    · rw [hsites] at hfilter ⊢
      exact hfilter.symm.eq_nil.symm
    · rw [hsites] at hfilter ⊢
      exact (List.perm_singleton.mp hfilter.symm).symm
  unfold declared?
  rw [hsame]

/-- With one site for every name, the order of the sites does not matter for what a reference
resolves to. -/
theorem resolve?_perm (honce : (index.map Site.key).Nodup) (hperm : index.Perm other)
    (scope : String) (t : TypeName) : resolve? index scope t = resolve? other scope t := by
  have hmem : (· ∈ index) = (· ∈ other) := funext fun s => propext hperm.mem_iff
  apply Option.ext
  intro d
  rw [resolve?_eq_some_iff, resolve?_eq_some_iff, hmem]
  simp only [declared?_perm honce hperm]

namespace Closing

theorem run_congr (h : ∀ scope t, resolve? index scope t = resolve? other scope t) (n : Nat)
    (c : Closing) : c.run index n = c.run other n := by
  induction n generalizing c with
  | zero => rfl
  | succ n ih =>
    have hstep : c.step index = c.step other := by
      unfold step
      simp only [h]
    rw [run, run, hstep, ih]

theorem run_add (index : List Site) (n m : Nat) (c : Closing) :
    c.run index (n + m) = (c.run index n).run index m := by
  induction n generalizing c with
  | zero => rw [Nat.zero_add, run]
  | succ n ih =>
    rw [Nat.succ_add, run, run]
    split
    · rename_i hpending
      exact (run_of_pending_eq_nil (by simpa using hpending) m).symm
    · exact ih (c.step index)

/-- Two numbers of rounds that both empty the stack come to the same. -/
theorem run_eq_of_pending_eq_nil {c : Closing} {n m : Nat} (hn : (c.run index n).pending = [])
    (hm : (c.run index m).pending = []) : c.run index n = c.run index m := by
  calc c.run index n = (c.run index n).run index m := (run_of_pending_eq_nil hn m).symm
    _ = (c.run index m).run index n := by rw [← run_add, ← run_add, Nat.add_comm]
    _ = c.run index m := run_of_pending_eq_nil hm n

end Closing

/-- What declarations get when closed depends on the index only by what references resolve to. -/
theorem closeHeader_congr (h : ∀ scope t, resolve? index scope t = resolve? other scope t)
    (scope : String) (header : Header) :
    closeHeader index scope header = closeHeader other scope header := by
  have hrun := Closing.run_congr h (rounds other header) (.start scope header)
  have hsame : (Closing.start scope header).run index (rounds index header) =
      (Closing.start scope header).run other (rounds other header) := by
    rw [← hrun]
    apply Closing.run_eq_of_pending_eq_nil (Closing.pending_run_start index scope header)
    rw [hrun]
    exact Closing.pending_run_start other scope header
  rw [closeHeader, closeHeader, hsame]

theorem closeIn_congr (h : ∀ scope t, resolve? index scope t = resolve? other scope t)
    (scope : String) (d : Declaration) : closeIn index scope d = closeIn other scope d := by
  induction d using Declaration.induction generalizing scope with
  | node header children ih =>
    rw [closeIn, closeIn, closeHeader_congr h, closeAllIn_eq_map, closeAllIn_eq_map]
    congr 1
    exact List.map_congr_left fun c hc => ih c hc (scopeBelow scope header)

end Inheritance

/-- Closed each with its own index, rearranged trees stay so. -/
theorem Declaration.Rearranged.close {root other : Declaration} (h : root.Rearranged other)
    (honce : ((sites "" root).map Site.key).Nodup) : root.close.Rearranged other.close := by
  have hresolve := resolve?_perm honce (h.sites_perm "")
  rw [Declaration.close, Declaration.close, ← closeIn_congr hresolve]
  exact h.closeIn (sites "" root) ""

/-! ## Walking -/

namespace Query

/-- Tests on entering declarations that give the same answer on a declaration of the first tree and
on one of the second that is a rearrangement of it in the same namespace. -/
def VisitsAgree (q : Query) (outer : String) (d e : Declaration) : Prop :=
  ∀ scope n m, Lies outer d scope n → Lies outer e scope m → n.Rearranged m →
    q.passesVisit n = q.passesVisit m

theorem VisitsAgree.child {q : Query} {outer : String} {header : Header}
    {children others : List Declaration} {c m : Declaration}
    (h : q.VisitsAgree outer (.node header children) (.node header others)) (hc : c ∈ children)
    (hm : m ∈ others) : q.VisitsAgree (scopeBelow outer header) c m := by
  intro scope n k hn hk hnk
  exact h scope n k (lies_node.mpr (.inr ⟨c, hc, hn⟩)) (lies_node.mpr (.inr ⟨m, hm, hk⟩)) hnk

theorem find_perm {q : Query} {outer : String} {d e : Declaration} (h : d.Rearranged e)
    (hvisit : q.VisitsAgree outer d e) (parent : Kind) (scope : Scope) :
    (q.find parent scope d).Perm (q.find parent scope e) := by
  induction d using Declaration.induction generalizing e outer parent scope with
  | node header children ih =>
    have hface := h.face_eq
    have hown : ∀ d : Declaration, Lies outer d outer d := fun d => ⟨[], rfl⟩
    have henters := enters_of_face hface (hvisit outer _ _ (hown _) (hown _) h) parent
    have hreport := report_eq_of_face (q := q) hface (by rw [h.header_eq]) scope
    rw [find_eq_ite, find_eq_ite q parent scope e, henters, hreport, Scope.enter_of_face hface,
      Declaration.kind_of_face hface]
    cases h with
    | node _ inside order =>
      split
      · apply List.Perm.append_left
        exact Declaration.Rearranged.flatMap_perm inside order fun c hc m hm hcm =>
          ih c hc hcm (hvisit.child hc hm) _ _
      · exact .refl _

/-- A query finds the same in a closed tree, and as often, however its siblings are ordered. -/
theorem run_close_perm {q : Query} {root other : Declaration}
    (honce : ((sites "" root).map Site.key).Nodup) (h : root.Rearranged other)
    (hvisit : q.VisitsAgree "" root.close other.close) :
    (q.run root.close).Perm (q.run other.close) := by
  have hclosed := h.close honce
  rw [run, run, findAll_eq_flatMap, findAll_eq_flatMap,
    Declaration.kind_of_face hclosed.face_eq]
  generalize root.close = closed at *
  generalize other.close = reclosed at *
  cases hclosed with
  | node header inside order =>
    exact Declaration.Rearranged.flatMap_perm inside order fun c hc m hm hcm =>
      find_perm hcm (hvisit.child hc hm) _ _

def reader : Declaration :=
  .node { kind := .interface, name := "Reader", interfaces := [⟨"", "Source", []⟩] } []

def writer : Declaration :=
  .node { kind := .interface, name := "Writer", interfaces := [⟨"", "Sink", []⟩] } []

/-- A class with two interfaces, from another namespace, and some declarations inside it. -/
def pipe (children : List Declaration) : Declaration :=
  .node { kind := .class, name := "Pipe",
          interfaces := [⟨"Io", "Reader", []⟩, ⟨"Io", "Writer", []⟩] } children

def shelf : Declaration :=
  .global [
    .space "Io" [reader, writer],
    pipe [.typeParameter "T" {}, .typeParameter "U" {}, .ofKind .method "flush"]]

def reshelved : Declaration :=
  .global [
    pipe [.typeParameter "T" {}, .ofKind .method "flush", .typeParameter "U" {}],
    .space "Io" [writer, reader]]

theorem rearranged_shelf : shelf.Rearranged reshelved := by
  have hspace : (Declaration.space "Io" [reader, writer]).Rearranged
      (.space "Io" [writer, reader]) :=
    .node _ (List.forall₂_same.mpr fun d _ => .refl d) (.swap ..) rfl
  have hpipe :
      (pipe [.typeParameter "T" {}, .typeParameter "U" {}, .ofKind .method "flush"]).Rearranged
        (pipe [.typeParameter "T" {}, .ofKind .method "flush", .typeParameter "U" {}]) :=
    .node _ (List.forall₂_same.mpr fun d _ => .refl d) (.cons _ (.swap ..)) rfl
  exact .node _ (.cons hspace (.cons hpipe .nil)) (.swap ..) rfl

/-- All that writes to a sink; classes are entered if they have three declarations inside. -/
def sinks : Query where
  interfaces := some (.allOf ["Sink"])
  visit kind := if kind = .class then some fun d => d.children.length == 3 else none

theorem run_close_perm_shelf :
    ((sites "" shelf).map Site.key).Nodup ∧ shelf.Rearranged reshelved ∧
      sinks.VisitsAgree "" shelf.close reshelved.close ∧
      (sinks.run shelf.close).Perm (sinks.run reshelved.close) ∧
      sinks.run shelf.close = [⟨"Writer", "Io.Writer"⟩, ⟨"Pipe", "Pipe<T, U>"⟩] ∧
      sinks.run reshelved.close = [⟨"Pipe", "Pipe<T, U>"⟩, ⟨"Writer", "Io.Writer"⟩] := by
  have honce : ((sites "" shelf).map Site.key).Nodup := by decide +kernel
  have hvisit : sinks.VisitsAgree "" shelf.close reshelved.close := by
    intro scope n m _ _ hnm
    simp only [passesVisit, sinks, Declaration.kind_of_face hnm.face_eq]
    split
    · simp [hnm.length_children]
    · rfl
  exact ⟨honce, rearranged_shelf, hvisit, run_close_perm honce rearranged_shelf hvisit,
    by decide +kernel, by decide +kernel⟩

end Query

end DeclTree

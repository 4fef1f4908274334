import DeclTree.Proofs.Inheritance.Resolution
import DeclTree.Proofs.Query.Chains

/-!
# Namespaces of the walk and of closing

The namespace around a declaration is worked out twice: the walk takes the qualified name of the
last namespace it entered, and closing joins the names of namespaces from the root on. The two could
differ, by type parameters of a namespace, which only the walk writes out, by an empty name, which
only the walk gives a dot, and by a namespace inside a type, which only closing counts. In a tree
without the first two the walk and closing agree on every declaration the walk can get to.
-/

open DeclTree.Inheritance

namespace DeclTree

namespace Inheritance

/-- The namespace that closing is in inside the last of some declarations that lie one inside the
other, the first of them in the given namespace. -/
def scopeAlong (outer : String) (ds : List Declaration) : String :=
  ds.foldl (fun scope d => scopeBelow scope d.header) outer

@[simp] theorem scopeAlong_nil (outer : String) : scopeAlong outer [] = outer := rfl

@[simp] theorem scopeAlong_cons (outer : String) (d : Declaration) (ds : List Declaration) :
    scopeAlong outer (d :: ds) = scopeAlong (scopeBelow outer d.header) ds := rfl

theorem Site.key_eq (s : Site) : s.key = qualify s.scope s.name := by
  unfold Site.key TypeName.canonical qualify
  split <;> simp

theorem locate_of_descent {outer : String} {d target : Declaration} {place : List Nat}
    {ancestors : List Declaration} (h : d.descent place = some (ancestors ++ [target])) :
    locate outer d place = some (scopeAlong outer (d :: ancestors), target) := by
  induction place generalizing outer d ancestors with
  | nil => simp at h
  | cons i place ih =>
    rw [Declaration.descent_cons, Option.bind_eq_some_iff] at h
    obtain ⟨c, hc, h⟩ := h
    obtain ⟨rest, hrest, hway⟩ := Option.map_eq_some_iff.mp h
    rw [locate, hc, Option.bind_some]
    cases ancestors with
    | cons a as =>
      obtain ⟨rfl, rfl⟩ := List.cons_eq_cons.mp hway
      exact ih hrest
    | nil =>
      obtain ⟨rfl, rfl⟩ := List.cons_eq_cons.mp hway
      cases place with
      | nil => rfl
      | cons j place =>
        obtain ⟨_, _, hcons⟩ := Option.bind_eq_some_iff.mp hrest
        obtain ⟨_, _, hnil⟩ := Option.map_eq_some_iff.mp hcons
        cases hnil

/-- The sites that an occurrence makes, if the first declaration on the way to it is in the given
namespace. -/
def sitesAt (outer : String) (o : Occurrence) : List Site :=
  siteOf (scopeAlong outer o.ancestors) o.target.header

theorem flatMap_sites_eq {outer : String} {ds : List Declaration} (i : Nat)
    (h : ∀ d ∈ ds, sites outer d = siteOf outer d.header ++
      d.occurrences.flatMap (sitesAt (scopeBelow outer d.header))) :
    ds.flatMap (sites outer) = (Declaration.occurrencesFrom i ds).flatMap (sitesAt outer) := by
  induction ds generalizing i with
  | nil => simp
  | cons d ds ih =>
    rw [Declaration.occurrencesFrom_cons, Declaration.occurrencesAt_eq, List.flatMap_append,
      List.flatMap_cons, List.flatMap_cons, List.flatMap_map, h d (by simp),
      ih (i + 1) fun e he => h e (by simp [he])]
    rfl

/-- The sites of a tree occurrence by occurrence. -/
theorem sites_eq_flatMap_occurrences (outer : String) (d : Declaration) :
    sites outer d = siteOf outer d.header ++
      d.occurrences.flatMap (sitesAt (scopeBelow outer d.header)) := by
  induction d using Declaration.induction generalizing outer with
  | node header children ih =>
    rw [sites, sitesAll_eq_flatMap, flatMap_sites_eq 0 fun c hc => ih c hc _]
    rfl

end Inheritance

/-! ## Both namespaces along a way down -/

namespace Scope

/-- The walk, inside a declaration of the given kind, is in the same namespace as closing. Inside a
namespace the path is this namespace, which is what the next namespace is named from. -/
structure Aligned (kind : Kind) (s : Scope) (scope : String) : Prop where
  space : s.space = scope
  path : kind = .namespace → s.path = scope

theorem Aligned.enter {kind : Kind} {s : Scope} {scope : String} {d : Declaration}
    (h : Aligned kind s scope) (hmay : kind.mayContain d.kind = true)
    (hspace : d.kind = .namespace → d.name ≠ "" ∧ d.typeParameters = []) :
    Aligned d.kind (s.enter d) (scopeBelow scope d.header) := by
  by_cases hd : d.kind = .namespace
  · obtain ⟨hname, hparams⟩ := hspace hd
    -- A namespace lies in a namespace only, so its qualified name goes on from the same text.
    have hparent : kind = .namespace := Kind.eq_namespace_of_mayContain (hd ▸ hmay)
    have hfull : s.fullName d = qualify scope d.name := by
      rw [fullName, h.path hparent, Declaration.displayName, hparams]
    have hbelow : scopeBelow scope d.header = qualify scope d.name := by
      unfold scopeBelow
      rw [if_pos]
      · rfl
      · simp only [Bool.and_eq_true, decide_eq_true_eq, Bool.not_eq_true',
          String.isEmpty_eq_false_iff]
        exact ⟨hd, hname⟩
    rw [hbelow]
    constructor
    · simp [Scope.enter, hd, hfull]
    · intro _
      exact hfull
  · have hbelow : scopeBelow scope d.header = scope := by
      unfold scopeBelow
      rw [if_neg]
      simp only [Bool.and_eq_true, decide_eq_true_eq, not_and]
      exact fun hkind => absurd hkind hd
    rw [hbelow]
    constructor
    · simp [Scope.enter, hd, h.space]
    · exact fun hkind => absurd hkind hd

theorem Aligned.through {parent : Declaration} {s : Scope} {scope : String}
    {ds : List Declaration} (h : Aligned parent.kind s scope)
    (hchain : (parent :: ds).IsChain fun a b => a.kind.mayContain b.kind = true)
    (hspaces : ∀ d ∈ ds, d.kind = .namespace → d.name ≠ "" ∧ d.typeParameters = []) :
    (s.through ds).space = scopeAlong scope ds := by
  induction ds generalizing parent s scope with
  | nil => exact h.space
  | cons d ds ih =>
    rw [List.isChain_cons_cons] at hchain
    have hnext := h.enter hchain.1 (hspaces d (by simp))
    exact ih hnext hchain.2 fun e he => hspaces e (by simp [he])

end Scope

/-! ## Trees -/

namespace Declaration

theorem descent_take {d : Declaration} {place : List Nat} {ds : List Declaration}
    (h : d.descent place = some ds) (n : Nat) : d.descent (place.take n) = some (ds.take n) := by
  induction place generalizing d ds n with
  | nil =>
    cases h
    simp
  | cons i place ih =>
    rw [descent_cons, Option.bind_eq_some_iff] at h
    obtain ⟨c, hc, h⟩ := h
    obtain ⟨rest, hrest, rfl⟩ := Option.map_eq_some_iff.mp h
    cases n with
    | zero => simp
    | succ n => simp [hc, ih hrest n]

end Declaration

namespace Occurrence

/-- The namespace in which closing a tree meets an occurrence below its root. -/
def scope (root : Declaration) (o : Occurrence) : String := scopeAlong "" (root :: o.ancestors)

/-- What is passed on the way to an occurrence occurs itself. -/
theorem Below.exists_ancestor {root : Declaration} {o : Occurrence} (h : o.Below root)
    {d : Declaration} (hd : d ∈ o.ancestors) : ∃ p : Occurrence, p.Below root ∧ p.target = d := by
  obtain ⟨front, back, hsplit⟩ := List.append_of_mem hd
  refine ⟨⟨o.place.take (front.length + 1), front, d⟩, ?_, rfl⟩
  have htake := Declaration.descent_take h (front.length + 1)
  rw [Below, htake, path, path, hsplit]
  simp [List.take_append]

theorem Below.locate_close {root : Declaration} {o : Occurrence} (h : o.Below root) :
    locate "" root.close o.place =
      some (o.scope root, closeIn (sites "" root) (o.scope root) o.target) := by
  rw [Declaration.close, locate_closeIn, locate_of_descent h]
  rfl

end Occurrence

/-- The root is the unnamed namespace, and every other namespace has a name and no type parameters.
-/
structure Declaration.PlainSpaces (root : Declaration) : Prop where
  root_kind : root.kind = .namespace
  root_name : root.name = ""
  spaces : ∀ o : Occurrence, o.Below root → o.target.kind = .namespace →
    o.target.name ≠ "" ∧ o.target.typeParameters = []

theorem Declaration.PlainSpaces.space_through {root : Declaration} (h : root.PlainSpaces)
    {o : Occurrence} (ho : o.Below root)
    (hchain : (root :: o.path).IsChain fun a b => a.kind.mayContain b.kind = true) :
    (Scope.through {} o.ancestors).space = o.scope root := by
  have hstart : scopeBelow "" root.header = "" := by
    have hname : root.header.name = "" := h.root_name
    simp [scopeBelow, hname]
  have haligned : Scope.Aligned root.kind {} "" := ⟨rfl, fun _ => rfl⟩
  have hancestors : (root :: o.ancestors).IsChain fun a b => a.kind.mayContain b.kind = true := by
    rw [Occurrence.path, ← List.cons_append] at hchain
    exact hchain.left_of_append
  rw [Occurrence.scope, scopeAlong_cons, hstart]
  refine haligned.through hancestors ?_
  intro d hd hkind
  obtain ⟨p, hp, rfl⟩ := ho.exists_ancestor hd
  exact h.spaces p hp hkind

/-- What a query finds, said with the namespaces of closing. -/
theorem Declaration.PlainSpaces.run_eq {root : Declaration} (h : root.PlainSpaces) (q : Query) :
    q.run root = (root.occurrences.filter fun o =>
      q.AdmitsAll root o.path ∧ q.includes o.target (o.scope root) = true).map
        Occurrence.entity := by
  rw [Query.run_eq_runUnpruned, Query.runUnpruned_eq_map]
  congr 1
  apply List.filter_congr
  intro o ho
  rw [decide_eq_decide, Query.Reports]
  apply and_congr_right
  intro hadmits
  have hspace := h.space_through (Declaration.mem_occurrences.mp ho) hadmits.1
  rw [Scope.space_through hadmits.1.tail.left_of_append] at hspace
  rw [Occurrence.spaces, hspace]

namespace Query

/-- The walk and closing put a declaration into the same namespace. What a query asks of the
namespace of a declaration it asks of the one that closing has for it, under which the index has the
type and from which closing follows its references. -/
theorem walk_and_closing_share_scopes {root : Declaration} (h : root.PlainSpaces) :
    (∀ o : Occurrence, o.Below root →
      ((root :: o.path).IsChain fun a b => a.kind.mayContain b.kind = true) →
      (Scope.through {} o.ancestors).space = o.scope root ∧
      ∀ s ∈ siteOf (o.scope root) o.target.header,
        s.key = qualify (Scope.through {} o.ancestors).space o.target.name) ∧
    (∀ q : Query, q.run root = (root.occurrences.filter fun o =>
      q.AdmitsAll root o.path ∧ q.includes o.target (o.scope root) = true).map Occurrence.entity) ∧
    (sites "" root = siteOf "" root.header ++
      root.occurrences.flatMap fun o => siteOf (o.scope root) o.target.header) ∧
    ∀ o : Occurrence, o.Below root → locate "" root.close o.place =
      some (o.scope root, closeIn (sites "" root) (o.scope root) o.target) := by
  refine ⟨?_, h.run_eq, sites_eq_flatMap_occurrences "" root, fun o ho => ho.locate_close⟩
  intro o ho hchain
  have hspace := h.space_through ho hchain
  refine ⟨hspace, ?_⟩
  intro s hs
  obtain ⟨⟨-, rfl⟩, -⟩ := mem_siteOf.mp hs
  rw [Site.key_eq, hspace]
  rfl

/-- A type inside a generic type, in a namespace of two names. -/
def part : Declaration :=
  .node { kind := .struct, name := "Part", interfaces := [⟨"", "Drawable", []⟩] } []

def widget : Declaration :=
  .node { kind := .class, name := "Widget" } [.typeParameter "T" {}, part]

def core : Declaration := .space "Core" [widget]

def app : Declaration := .space "App" [core]

def workshop : Declaration := .global [app]

def partInWorkshop : Occurrence := ⟨[0, 0, 0, 1], [app, core, widget], part⟩

theorem workshop_shares_scopes :
    workshop.PlainSpaces ∧ partInWorkshop.Below workshop ∧
      (Scope.through {} partInWorkshop.ancestors).space = partInWorkshop.scope workshop ∧
      partInWorkshop.scope workshop = "App.Core" ∧
      (sites "" workshop).map Site.key = ["App.Core.Part"] ∧
      locate "" workshop.close [0, 0, 0, 1] =
        some ("App.Core", closeIn (sites "" workshop) "App.Core" part) := by
  have hspaces : ∀ o ∈ workshop.occurrences, o.target.kind = .namespace →
      o.target.name ≠ "" ∧ o.target.typeParameters = [] := by decide +kernel
  have hplain : workshop.PlainSpaces :=
    ⟨rfl, rfl, fun o ho => hspaces o (Declaration.mem_occurrences.mpr ho)⟩
  have hscope : partInWorkshop.scope workshop = "App.Core" := by decide +kernel
  obtain ⟨hshared, -, -, hclosed⟩ := walk_and_closing_share_scopes hplain
  have hpart := hclosed partInWorkshop rfl
  rw [hscope] at hpart
  exact ⟨hplain, rfl, (hshared partInWorkshop rfl (by decide)).1, hscope, by decide +kernel, hpart⟩

end Query

end DeclTree

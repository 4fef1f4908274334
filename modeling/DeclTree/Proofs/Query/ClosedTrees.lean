import DeclTree.Proofs.Inheritance.Reachability
import DeclTree.Proofs.Query.Chains

/-!
# Queries on closed trees

A query looks at the interfaces of a declaration in one place only, the condition on them; what else
it sees of a declaration is `Declaration.face`. Closing changes no face, and every condition on
interfaces that accepts a list of types accepts a longer one. So a closed tree has all the matches
of the tree itself, in the same order, and no others if interfaces are not asked for. Tests on
entering declarations can be of any kind, and have to leave interfaces aside as well.
-/

open DeclTree.Inheritance

namespace DeclTree

namespace Declaration

mutual

/-- The declaration with no interfaces, neither its own nor those of anything inside it. -/
def bare : Declaration → Declaration
  | .node header children => .node { header with interfaces := [] } (bareAll children)

def bareAll : List Declaration → List Declaration
  | [] => []
  | d :: ds => bare d :: bareAll ds

end

@[simp] theorem bareAll_eq_map (ds : List Declaration) : bareAll ds = ds.map bare := by
  induction ds with
  | nil => simp [bareAll]
  | cons d ds ih => simp [bareAll, ih]

@[simp] theorem kind_bare (d : Declaration) : d.bare.kind = d.kind := by
  cases d
  simp [bare]

/-- What a query sees of a declaration besides its interfaces: the rest of its header, and its type
parameters with their constraints. -/
def face (d : Declaration) : Header × List (String × Option Constraints) :=
  ({ d.header with interfaces := [] },
    d.typeParameters.map fun p => (p.name, p.header.constraints))

/-- Changing declarations within their kinds changes the type parameters among them. -/
theorem typeParameters_map {change : Declaration → Declaration}
    (hkind : ∀ d, (change d).kind = d.kind) (old new : Header) (children : List Declaration) :
    (node new (children.map change)).typeParameters =
      (node old children).typeParameters.map change := by
  simp [typeParameters, List.filter_map, Function.comp_def, hkind]

theorem face_bare (d : Declaration) : d.bare.face = d.face := by
  obtain ⟨header, children⟩ := d
  have hsame : ∀ d : Declaration, (d.bare.name, d.bare.header.constraints) =
      (d.name, d.header.constraints) := by
    rintro ⟨header, children⟩
    simp [bare]
  rw [face, face, bare, bareAll_eq_map, typeParameters_map kind_bare header, List.map_map]
  simp [Function.comp_def, hsame]

theorem face_eq_of_bare_eq {d e : Declaration} (h : d.bare = e.bare) : d.face = e.face := by
  rw [← face_bare d, h, face_bare]

theorem displayName_eq (d : Declaration) :
    d.displayName = if d.typeParameters.map name = [] then d.name
      else d.name ++ "<" ++ ", ".intercalate (d.typeParameters.map name) ++ ">" := by
  unfold displayName
  split
  · rename_i hparams
    simp [hparams]
  · rename_i hparams
    rw [if_neg (by simpa using hparams)]

/-! ## Equal faces -/

variable {d e : Declaration}

theorem kind_of_face (h : d.face = e.face) : d.kind = e.kind := congrArg (·.1.kind) h

theorem name_of_face (h : d.face = e.face) : d.name = e.name := congrArg (·.1.name) h

theorem isSpecial_of_face (h : d.face = e.face) : d.isSpecial = e.isSpecial :=
  congrArg (·.1.isSpecial) h

theorem displayName_of_face (h : d.face = e.face) : d.displayName = e.displayName := by
  have hnames : d.typeParameters.map name = e.typeParameters.map name := by
    have hparams := congrArg (·.2.map Prod.fst) h
    simpa [face, Function.comp_def] using hparams
  rw [displayName_eq, displayName_eq, hnames, name_of_face h]

end Declaration

theorem Scope.enter_of_face {d e : Declaration} (h : d.face = e.face) (s : Scope) :
    s.enter d = s.enter e := by
  simp only [enter, fullName, Declaration.kind_of_face h, Declaration.displayName_of_face h]

theorem GenericCondition.acceptsAll_of_face {d e : Declaration} (h : d.face = e.face)
    (c : GenericCondition) : c.acceptsAll d.typeParameters = c.acceptsAll e.typeParameters := by
  have hface : ∀ d : Declaration, c.acceptsAll d.typeParameters =
      (!d.face.2.isEmpty && d.face.2.all fun p => c.accepts (p.2.getD {})) := by
    intro d
    simp [acceptsAll, Declaration.face, List.all_map, Function.comp_def]
  rw [hface, hface, h]

namespace Query

/-- Whether the condition on interfaces holds of a list of types. -/
def allowsInterfaces (q : Query) (types : List TypeName) : Bool :=
  q.interfaces.all fun c => c.accepts types

/-- Of two declarations with the same face, the second is reported with the first if the condition
on interfaces lets it. -/
theorem includes_of_face {q : Query} {d e : Declaration} {scope : String} (h : d.face = e.face)
    (hmore : q.allowsInterfaces d.header.interfaces = true →
      q.allowsInterfaces e.header.interfaces = true)
    (hd : q.includes d scope = true) : q.includes e scope = true := by
  have hvisibility : d.header.visibility = e.header.visibility := congrArg (·.1.visibility) h
  have hannotations : d.header.annotations = e.header.annotations := congrArg (·.1.annotations) h
  simp only [includes, Bool.and_eq_true, Declaration.kind_of_face h, Declaration.name_of_face h,
    hvisibility, hannotations, GenericCondition.acceptsAll_of_face h] at hd ⊢
  obtain ⟨⟨hrest, hinterfaces⟩, hannotated⟩ := hd
  exact ⟨⟨hrest, hmore hinterfaces⟩, hannotated⟩

theorem report_sublist_of_face {q : Query} {d e : Declaration} (h : d.face = e.face)
    (hmore : q.allowsInterfaces d.header.interfaces = true →
      q.allowsInterfaces e.header.interfaces = true) (scope : Scope) :
    (q.report scope d).Sublist (q.report scope e) := by
  by_cases hd : q.includes d scope.space = true
  · have he := includes_of_face h hmore hd
    rw [report, report, if_pos hd, if_pos he, Declaration.name_of_face h, Scope.fullName,
      Scope.fullName, Declaration.displayName_of_face h]
  · rw [report, if_neg hd]
    exact List.nil_sublist _

theorem report_eq_of_face {q : Query} {d e : Declaration} (h : d.face = e.face)
    (hsame : q.allowsInterfaces d.header.interfaces = q.allowsInterfaces e.header.interfaces)
    (scope : Scope) : q.report scope d = q.report scope e := by
  have hmore := report_sublist_of_face h (fun hd => hsame ▸ hd) scope
  have hless := report_sublist_of_face h.symm (fun he => hsame ▸ he) scope
  exact hmore.antisymm hless

theorem enters_of_face {q : Query} {d e : Declaration} (h : d.face = e.face)
    (hvisit : q.passesVisit d = q.passesVisit e) (parent : Kind) :
    q.enters parent d = q.enters parent e := by
  simp only [enters, visitable, Declaration.kind_of_face h, Declaration.isSpecial_of_face h, hvisit]

theorem find_eq_ite (q : Query) (parent : Kind) (scope : Scope) (d : Declaration) :
    q.find parent scope d =
      if q.enters parent d then
        q.report scope d ++ d.children.flatMap (q.find d.kind (scope.enter d))
      else [] := by
  cases d
  simp only [find, findAll_eq_flatMap, Declaration.children_node, Declaration.kind_node]

end Query

/-! ## Closing -/

namespace Inheritance

theorem header_closeIn (index : List Site) (scope : String) (d : Declaration) :
    (closeIn index scope d).header = closeHeader index scope d.header := by
  cases d
  rfl

theorem children_closeIn (index : List Site) (scope : String) (d : Declaration) :
    (closeIn index scope d).children =
      d.children.map (closeIn index (scopeBelow scope d.header)) := by
  cases d
  simp [closeIn]

/-- Closing changes nothing but interfaces. -/
theorem bare_closeIn (index : List Site) (scope : String) (d : Declaration) :
    (closeIn index scope d).bare = d.bare := by
  induction d using Declaration.induction generalizing scope with
  | node header children ih =>
    have hchildren : (children.map (closeIn index (scopeBelow scope header))).map Declaration.bare =
        children.map Declaration.bare := by
      rw [List.map_map]
      exact List.map_congr_left fun c hc => ih c hc (scopeBelow scope header)
    rw [closeIn, closeAllIn_eq_map, Declaration.bare, Declaration.bare,
      Declaration.bareAll_eq_map, Declaration.bareAll_eq_map, hchildren]
    rfl

/-- What a condition accepts of a declaration it accepts once the declaration is closed. -/
theorem allowsInterfaces_closeHeader (q : Query) (index : List Site) (scope : String) (h : Header)
    (hallows : q.allowsInterfaces h.interfaces = true) :
    q.allowsInterfaces (closeHeader index scope h).interfaces = true := by
  obtain ⟨⟨more, hmore, -⟩, -⟩ := closeHeader_interfaces index scope h
  rw [hmore]
  cases hcondition : q.interfaces with
  | none => simp [Query.allowsInterfaces, hcondition]
  | some c =>
    simp only [Query.allowsInterfaces, hcondition, Option.all_some] at hallows ⊢
    refine c.accepts_mono ?_ hallows
    intro name hname
    rw [TypeName.canonicals_append, List.mem_append]
    exact .inl hname

end Inheritance

namespace Query

/-- Tests on entering declarations that give the same answer whatever interfaces a declaration and
those inside it have. -/
def VisitsIgnoreInterfaces (q : Query) : Prop :=
  ∀ d e : Declaration, d.bare = e.bare → q.passesVisit d = q.passesVisit e

theorem find_closeIn {q : Query} (hvisit : q.VisitsIgnoreInterfaces) (index : List Site)
    (outer : String) (parent : Kind) (scope : Scope) (d : Declaration) :
    (q.find parent scope d).Sublist (q.find parent scope (closeIn index outer d)) ∧
      (q.interfaces = none →
        q.find parent scope (closeIn index outer d) = q.find parent scope d) := by
  induction d using Declaration.induction generalizing outer parent scope with
  | node header children ih =>
    have hbare := bare_closeIn index outer (.node header children)
    have hface := Declaration.face_eq_of_bare_eq hbare
    rw [find_eq_ite q parent scope (closeIn index outer _),
      find_eq_ite q parent scope (.node header children),
      enters_of_face hface (hvisit _ _ hbare), Scope.enter_of_face hface,
      Declaration.kind_of_face hface, children_closeIn, Declaration.children_node,
      List.flatMap_map]
    split
    · refine ⟨?_, ?_⟩
      · apply List.Sublist.append
        · apply report_sublist_of_face hface.symm
          rw [header_closeIn]
          exact allowsInterfaces_closeHeader q index outer header
        · exact List.Sublist.flatMap_right children fun c hc => (ih c hc _ _ _).1
      · intro hnone
        congr 1
        · exact report_eq_of_face hface (by simp [allowsInterfaces, hnone]) scope
        · exact List.flatMap_congr fun c hc => (ih c hc _ _ _).2 hnone
    · exact ⟨.refl _, fun _ => rfl⟩

/-- Closing a tree loses no match of a query, and changes none if interfaces are not asked for. -/
theorem run_sublist_run_close {q : Query} (hvisit : q.VisitsIgnoreInterfaces)
    (root : Declaration) :
    (q.run root).Sublist (q.run root.close) ∧
      (q.interfaces = none → q.run root.close = q.run root) := by
  have hface := Declaration.face_eq_of_bare_eq (bare_closeIn (sites "" root) "" root)
  rw [run, run, findAll_eq_flatMap, findAll_eq_flatMap, Declaration.close,
    Declaration.kind_of_face hface, children_closeIn, List.flatMap_map]
  constructor
  · exact List.Sublist.flatMap_right _ fun c _ => (find_closeIn hvisit _ _ _ _ c).1
  · intro hnone
    exact List.flatMap_congr fun c _ => (find_closeIn hvisit _ _ _ _ c).2 hnone

/-- A type that inherits what is asked for, and a namespace that the query does not enter. -/
def gallery : Declaration :=
  .global [
    .node { kind := .interface, name := "Shape", interfaces := [⟨"", "Drawable", []⟩] } [],
    .space "Generated" [
      .node { kind := .class, name := "Stub", interfaces := [⟨"", "Drawable", []⟩] } []],
    .node { kind := .class, name := "Square", interfaces := [⟨"", "Shape", []⟩] } []]

def drawables : Query where
  interfaces := some (.oneOf ["Drawable"])
  visit kind := if kind = .namespace then some fun d => d.name != "Generated" else none

theorem run_gallery_sublist_run_close :
    drawables.VisitsIgnoreInterfaces ∧
      (drawables.run gallery).Sublist (drawables.run gallery.close) ∧
      drawables.run gallery = [⟨"Shape", "Shape"⟩] ∧
      drawables.run gallery.close = [⟨"Shape", "Shape"⟩, ⟨"Square", "Square"⟩] := by
  have hvisit : drawables.VisitsIgnoreInterfaces := by
    intro d e hbare
    have hface := Declaration.face_eq_of_bare_eq hbare
    simp only [passesVisit, drawables, Declaration.kind_of_face hface]
    split
    · simp [Declaration.name_of_face hface]
    · rfl
  exact ⟨hvisit, (run_sublist_run_close hvisit gallery).1, by decide +kernel, by decide +kernel⟩

end Query

end DeclTree

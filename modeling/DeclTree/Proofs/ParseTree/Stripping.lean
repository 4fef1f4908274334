import DeclTree.ParseTree
import Mathlib.Data.List.Basic

/-!
# Leaving out nodes of parse trees

A tree is stripped of the nodes that pass a test; every other node keeps its label. Each way to look
at the children of a node is shown to find the same, stripped, as long as it did not find a node
that is left out.
-/

namespace DeclTree.ParseTree

mutual

/-- The tree without the nodes below its root that pass a test. -/
def strip (test : ParseTree → Bool) : ParseTree → ParseTree
  | .node label children => .node label (stripAll test children)

/-- Trees side by side, without those that pass a test and stripped of the nodes that do. -/
def stripAll (test : ParseTree → Bool) : List ParseTree → List ParseTree
  | [] => []
  | t :: ts => if test t then stripAll test ts else strip test t :: stripAll test ts

end

/-- Something holds of every node of a tree. -/
inductive Everywhere (P : ParseTree → Prop) : ParseTree → Prop
  | node {label : Label} {children : List ParseTree} (here : P (.node label children))
      (inside : ∀ c ∈ children, Everywhere P c) : Everywhere P (.node label children)

theorem everywhere_node {P : ParseTree → Prop} {label : Label} {children : List ParseTree} :
    Everywhere P (.node label children) ↔
      P (.node label children) ∧ ∀ c ∈ children, Everywhere P c :=
  ⟨fun ⟨here, inside⟩ => ⟨here, inside⟩, fun ⟨here, inside⟩ => .node here inside⟩

namespace Everywhere

variable {P : ParseTree → Prop} {t c : ParseTree}

theorem here (h : Everywhere P t) : P t := by
  cases t
  exact (everywhere_node.mp h).1

theorem children (h : Everywhere P t) : ∀ c ∈ t.children, Everywhere P c := by
  cases t
  exact (everywhere_node.mp h).2

theorem namedChildren (h : Everywhere P t) : ∀ c ∈ t.namedChildren, Everywhere P c :=
  fun c hc => h.children c (List.mem_of_mem_filter hc)

theorem find? {p : ParseTree → Bool} (h : Everywhere P t) (hc : t.children.find? p = some c) :
    Everywhere P c :=
  h.children c (List.mem_of_find?_eq_some hc)

theorem imp {Q : ParseTree → Prop} (h : Everywhere P t) (hPQ : ∀ t, P t → Q t) :
    Everywhere Q t := by
  induction h with
  | node here _ ih => exact .node (hPQ _ here) ih

theorem of_forall (h : ∀ t, P t) : ∀ t, Everywhere P t
  | .node _ _ => .node (h _) fun c _ => of_forall h c

end Everywhere

variable {test : ParseTree → Bool}

@[simp] theorem label_strip (t : ParseTree) : (t.strip test).label = t.label := by
  cases t
  simp [strip]

@[simp] theorem children_strip (t : ParseTree) :
    (t.strip test).children = stripAll test t.children := by
  cases t
  simp [strip]

@[simp] theorem kind_strip (t : ParseTree) : (t.strip test).kind = t.kind := by simp [kind]

@[simp] theorem named_strip (t : ParseTree) : (t.strip test).named = t.named := by simp [named]

@[simp] theorem field_strip (t : ParseTree) : (t.strip test).field = t.field := by simp [field]

@[simp] theorem text_strip (t : ParseTree) : (t.strip test).text = t.text := by simp [text]

@[simp] theorem typeName?_strip (t : ParseTree) : (t.strip test).typeName? = t.typeName? := by
  simp [typeName?]

@[simp] theorem stripAll_nil : stripAll test [] = [] := by simp [stripAll]

theorem stripAll_cons_pos {t : ParseTree} (h : test t = true) (ts : List ParseTree) :
    stripAll test (t :: ts) = stripAll test ts := by
  rw [stripAll, if_pos h]

theorem stripAll_cons_neg {t : ParseTree} (h : test t = false) (ts : List ParseTree) :
    stripAll test (t :: ts) = t.strip test :: stripAll test ts := by
  rw [stripAll, if_neg (by simp [h])]

theorem stripAll_eq_map (ts : List ParseTree) :
    stripAll test ts = (ts.filter fun t => !test t).map (strip test) := by
  induction ts with
  | nil => simp
  | cons t ts ih =>
    cases h : test t with
    | true => simp [stripAll_cons_pos h, h, ih]
    | false => simp [stripAll_cons_neg h, h, ih]

/-- The first tree with a property is still the first, if it is not left out itself. -/
theorem find?_stripAll {p : ParseTree → Bool} (hp : ∀ t, p (t.strip test) = p t)
    {ts : List ParseTree} (h : ∀ c, ts.find? p = some c → test c = false) :
    (stripAll test ts).find? p = (ts.find? p).map (strip test) := by
  induction ts with
  | nil => simp
  | cons t ts ih =>
    cases hpt : p t with
    | true =>
      have hkept : test t = false := h t (by simp [hpt])
      simp [stripAll_cons_neg hkept, hp, hpt]
    | false =>
      rw [List.find?_cons_of_neg (by simp [hpt])] at h ⊢
      cases htest : test t with
      | true => rw [stripAll_cons_pos htest, ih h]
      | false =>
        rw [stripAll_cons_neg htest, List.find?_cons_of_neg (by simp [hp, hpt]), ih h]

theorem filter_stripAll {p : ParseTree → Bool} (hp : ∀ t, p (t.strip test) = p t)
    (h : ∀ t, p t = true → test t = false) (ts : List ParseTree) :
    (stripAll test ts).filter p = (ts.filter p).map (strip test) := by
  have hcomp : p ∘ strip test = p := funext hp
  rw [stripAll_eq_map, List.filter_map, hcomp, List.filter_filter]
  congr 1
  apply List.filter_congr
  intro t _
  cases hpt : p t with
  | true => simp [h t hpt]
  | false => rfl

theorem filterMap_stripAll_sublist {α : Type} {f : ParseTree → Option α} {ts : List ParseTree}
    (hf : ∀ t ∈ ts, f (t.strip test) = f t) :
    ((stripAll test ts).filterMap f).Sublist (ts.filterMap f) := by
  have hkept : (stripAll test ts).filterMap f = (ts.filter fun t => !test t).filterMap f := by
    rw [stripAll_eq_map, List.filterMap_map]
    exact List.filterMap_congr fun t ht => hf t (List.mem_of_mem_filter ht)
  rw [hkept]
  exact List.filter_sublist.filterMap f

/-- Reading trees one by one gives the same without those left out exactly if they gave nothing. -/
theorem filterMap_stripAll_iff {α : Type} {f : ParseTree → Option α} {ts : List ParseTree}
    (hf : ∀ t ∈ ts, f (t.strip test) = f t) :
    (stripAll test ts).filterMap f = ts.filterMap f ↔ ∀ t ∈ ts, test t = true → f t = none := by
  induction ts with
  | nil => simp
  | cons t ts ih =>
    have hrest : ∀ c ∈ ts, f (c.strip test) = f c := fun c hc => hf c (by simp [hc])
    rw [List.forall_mem_cons, ← ih hrest]
    cases htest : test t with
    | false =>
      rw [stripAll_cons_neg htest, List.filterMap_cons, List.filterMap_cons, hf t (by simp)]
      cases f t <;> simp
    | true =>
      rw [stripAll_cons_pos htest]
      cases hft : f t with
      | none => simp [hft]
      | some a =>
        -- One more result than before cannot be made up for by leaving out more.
        have hlength : ((stripAll test ts).filterMap f).length ≤ (ts.filterMap f).length :=
          (filterMap_stripAll_sublist hrest).length_le
        have hne : (stripAll test ts).filterMap f ≠ (t :: ts).filterMap f := by
          intro heq
          rw [heq, List.filterMap_cons_some hft, List.length_cons] at hlength
          omega
        simp [hne]

theorem filterMap_stripAll {α : Type} {f : ParseTree → Option α} {ts : List ParseTree}
    (hf : ∀ t ∈ ts, f (t.strip test) = f t) (h : ∀ t ∈ ts, test t = true → f t = none) :
    (stripAll test ts).filterMap f = ts.filterMap f := (filterMap_stripAll_iff hf).mpr h

theorem foldl_stripAll {α : Type} {f : α → ParseTree → α} {ts : List ParseTree}
    (hf : ∀ t ∈ ts, ∀ a, f a (t.strip test) = f a t)
    (h : ∀ t ∈ ts, test t = true → ∀ a, f a t = a) (a : α) :
    (stripAll test ts).foldl f a = ts.foldl f a := by
  induction ts generalizing a with
  | nil => simp
  | cons t ts ih =>
    have ih := ih (fun c hc => hf c (by simp [hc])) fun c hc => h c (by simp [hc])
    cases htest : test t with
    | true => rw [stripAll_cons_pos htest, List.foldl_cons, h t (by simp) htest, ih]
    | false => rw [stripAll_cons_neg htest, List.foldl_cons, List.foldl_cons, hf t (by simp), ih]

@[simp] theorem namedChildren_strip (t : ParseTree) :
    (t.strip test).namedChildren = stripAll test t.namedChildren := by
  have hcomp : named ∘ strip test = named := funext named_strip
  rw [ParseTree.namedChildren, children_strip, stripAll_eq_map, stripAll_eq_map, List.filter_map,
    hcomp, ParseTree.namedChildren, List.filter_filter, List.filter_filter]
  simp only [Bool.and_comm]

theorem firstNamed?_strip {t : ParseTree} (h : ∀ c, t.firstNamed? = some c → test c = false) :
    (t.strip test).firstNamed? = t.firstNamed?.map (strip test) := by
  rw [firstNamed?, children_strip]
  exact find?_stripAll named_strip h

/-- No child that passes a test is known under a name. -/
def Nameless (test : ParseTree → Bool) (t : ParseTree) : Prop :=
  ∀ c ∈ t.children, test c = true → c.field = ""

/-- A child known under a name is found, as long as none of those left out is known under one. -/
theorem child?_strip {t : ParseTree} (h : t.Nameless test) {field : String} (hfield : field ≠ "") :
    (t.strip test).child? field = (t.child? field).map (strip test) := by
  rw [child?, children_strip]
  refine find?_stripAll (fun c => by rw [field_strip]) fun c hc => ?_
  have hknown : c.field = field := by simpa using List.find?_some hc
  have hkept : ¬ test c = true := by
    intro htest
    have hempty : c.field = "" := h c (List.mem_of_find?_eq_some hc) htest
    exact hfield (hknown.symm.trans hempty)
  simpa using hkept

theorem childText?_strip {t : ParseTree} (h : t.Nameless test) {field : String}
    (hfield : field ≠ "") : (t.strip test).childText? field = t.childText? field := by
  rw [childText?, child?_strip h hfield, childText?, Option.map_map]
  congr 1
  exact funext text_strip

/-- What is read of the child known under a name, if leaving out nodes in it does not matter. -/
theorem elim_child?_strip {α : Type} {t : ParseTree} (h : t.Nameless test) {field : String}
    (hfield : field ≠ "") {f : ParseTree → α}
    (hf : ∀ c, t.child? field = some c → f (c.strip test) = f c) (a : α) :
    ((t.strip test).child? field).elim a f = (t.child? field).elim a f := by
  rw [child?_strip h hfield]
  cases hc : t.child? field with
  | none => rfl
  | some c => exact hf c hc

theorem name_strip {t : ParseTree} (h : t.Nameless test) :
    (t.strip test).childText? "name" = t.childText? "name" := childText?_strip h (by simp)

/-- What is read one by one of the children of the child known under a name. -/
theorem elim_filterMap_strip {α : Type} {t : ParseTree} (h : t.Nameless test) {field : String}
    (hfield : field ≠ "") {f : ParseTree → Option α}
    (hf : ∀ list, t.child? field = some list → ∀ c ∈ list.namedChildren, f (c.strip test) = f c)
    (hnone : ∀ c, test c = true → f c = none) :
    ((t.strip test).child? field).elim [] (fun list => list.namedChildren.filterMap f) =
      (t.child? field).elim [] fun list => list.namedChildren.filterMap f := by
  refine elim_child?_strip h hfield (fun list hlist => ?_) []
  rw [namedChildren_strip]
  exact filterMap_stripAll (hf list hlist) fun c _ => hnone c

@[simp] theorem bind_typeName?_strip (o : Option ParseTree) :
    (o.map (strip test)).bind typeName? = o.bind typeName? := by
  cases o <;> simp

theorem childOfKind?_strip {kind : String} (h : ∀ c : ParseTree, c.kind = kind → test c = false)
    (t : ParseTree) :
    (t.strip test).childOfKind? kind = (t.childOfKind? kind).map (strip test) := by
  rw [childOfKind?, children_strip]
  refine find?_stripAll (fun c => by rw [kind_strip]) fun c hc => h c ?_
  simpa using List.find?_some hc

end DeclTree.ParseTree

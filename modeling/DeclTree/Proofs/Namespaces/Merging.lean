import DeclTree.Namespaces
import DeclTree.Proofs.Occurrences
import Mathlib.Tactic.Tauto

/-!
# What merging leaves of namespaces

Merging folds a namespace into one of its name, but puts one of a new name behind its siblings as it
is, with whatever it has inside. So the first block of a path of namespaces comes into the tree
whole, and only the blocks after it are folded into it. Merged siblings have no namespace twice, at
any depth, exactly when they had none twice before and no first block brings one.
-/

namespace DeclTree

namespace Declaration

theorem isSpace_iff {x : String} {d : Declaration} :
    isSpace x d = true ↔ d.kind = .namespace ∧ d.name = x := by
  simp [isSpace]

@[simp] theorem isSpace_node_header (x : String) (d : Declaration) (cs : List Declaration) :
    isSpace x (.node d.header cs) = isSpace x d := rfl

/-- No two namespaces among siblings have one name. -/
def Distinct (ds : List Declaration) : Prop :=
  ds.Pairwise fun c d => c.kind = .namespace → d.kind = .namespace → c.name ≠ d.name

/-- Siblings with distinct namespaces, and so are those inside these namespaces, at any depth. -/
inductive Unrepeated : List Declaration → Prop
  | intro {ds : List Declaration} (here : Distinct ds)
      (inside : ∀ d ∈ ds, d.kind = .namespace → Unrepeated d.children) : Unrepeated ds

theorem unrepeated_iff {ds : List Declaration} :
    Unrepeated ds ↔ Distinct ds ∧ ∀ d ∈ ds, d.kind = .namespace → Unrepeated d.children :=
  ⟨fun ⟨here, inside⟩ => ⟨here, inside⟩, fun h => ⟨h.1, h.2⟩⟩

theorem distinct_middle {front rest : List Declaration} {d : Declaration} :
    Distinct (front ++ d :: rest) ↔
      Distinct (front ++ rest) ∧
        (d.kind = .namespace → ∀ c ∈ front ++ rest, isSpace d.name c = false) := by
  unfold Distinct
  rw [List.pairwise_middle fun h hd hc => (h hc hd).symm, List.pairwise_cons, and_comm]
  refine and_congr_right fun _ => ?_
  constructor
  · intro h hd c hc
    rw [Bool.eq_false_iff, ne_eq, isSpace_iff]
    rintro ⟨hkind, hname⟩
    exact h c hc hd hkind hname.symm
  · intro h c hc hd hkind hname
    have hspace : isSpace d.name c = true := isSpace_iff.mpr ⟨hkind, hname.symm⟩
    simp [h hd c hc] at hspace

theorem unrepeated_middle {front rest : List Declaration} {d : Declaration} :
    Unrepeated (front ++ d :: rest) ↔
      Unrepeated (front ++ rest) ∧
        (d.kind = .namespace →
          (∀ c ∈ front ++ rest, isSpace d.name c = false) ∧ Unrepeated d.children) := by
  have hmem : ∀ c, c ∈ front ++ d :: rest ↔ c = d ∨ c ∈ front ++ rest := by
    intro c
    simp only [List.mem_append, List.mem_cons]
    tauto
  rw [unrepeated_iff, distinct_middle, @unrepeated_iff (front ++ rest)]
  simp only [hmem, forall_eq_or_imp]
  tauto

/-! ## First blocks -/

/-- What the first namespace of a path has inside, if there is one among declarations. -/
def firstBlock : List String → List Declaration → Option (List Declaration)
  | [], ds => some ds
  | x :: path, ds =>
    ds.findSome? fun d => if isSpace x d then firstBlock path d.children else none

@[simp] theorem firstBlock_nil (ds : List Declaration) : firstBlock [] ds = some ds := rfl

theorem firstBlock_eq_none_of_nil {path : List String} (h : path ≠ []) :
    firstBlock path [] = none := by
  cases path with
  | nil => exact absurd rfl h
  | cons x path => rfl

theorem firstBlock_singleton (x : String) (path : List String) (d : Declaration) :
    firstBlock (x :: path) [d] =
      if isSpace x d then firstBlock path d.children else none := by
  simp [firstBlock]

theorem firstBlock_append {path : List String} (h : path ≠ []) (ds es : List Declaration) :
    firstBlock path (ds ++ es) = (firstBlock path ds).or (firstBlock path es) := by
  cases path with
  | nil => exact absurd rfl h
  | cons x path => simp [firstBlock, List.findSome?_append]

theorem firstBlock_cons {path : List String} (h : path ≠ []) (d : Declaration)
    (ds : List Declaration) :
    firstBlock path (d :: ds) = (firstBlock path [d]).or (firstBlock path ds) :=
  firstBlock_append h [d] ds

theorem firstBlock_of_absent {x : String} {ds : List Declaration}
    (h : ∀ d ∈ ds, isSpace x d = false) (path : List String) :
    firstBlock (x :: path) ds = none := by
  rw [firstBlock, List.findSome?_eq_none_iff]
  intro d hd
  simp [h d hd]

/-- Where a namespace has no other of its name beside it, it holds the first blocks of its paths. -/
theorem firstBlock_of_distinct {ds : List Declaration} {d : Declaration} {x : String}
    (hds : Distinct ds) (hd : d ∈ ds) (hspace : isSpace x d = true) (path : List String) :
    firstBlock (x :: path) ds = firstBlock path d.children := by
  obtain ⟨front, rest, rfl⟩ := List.append_of_mem hd
  obtain ⟨hkind, rfl⟩ := isSpace_iff.mp hspace
  have hothers := (distinct_middle.mp hds).2 hkind
  have hfront : firstBlock (d.name :: path) front = none :=
    firstBlock_of_absent (fun c hc => hothers c (by simp [hc])) path
  have hrest : firstBlock (d.name :: path) rest = none :=
    firstBlock_of_absent (fun c hc => hothers c (by simp [hc])) path
  rw [firstBlock_append (by simp), hfront, Option.none_or, firstBlock_cons (by simp), hrest,
    Option.or_none, firstBlock_singleton, if_pos hspace]

theorem Unrepeated.firstBlock_distinct {ds : List Declaration} (h : Unrepeated ds)
    {path : List String} {block : List Declaration} (hblock : firstBlock path ds = some block) :
    Distinct block := by
  induction path generalizing ds with
  | nil =>
    cases hblock
    exact (unrepeated_iff.mp h).1
  | cons x path ih =>
    obtain ⟨d, hd, hfound⟩ := List.exists_of_findSome?_eq_some hblock
    split at hfound
    · rename_i hspace
      exact ih ((unrepeated_iff.mp h).2 d hd (isSpace_iff.mp hspace).1) hfound
    · cases hfound

/-- Without repeats every block is the first of its path, so the first blocks tell it all. -/
theorem unrepeated_iff_firstBlock {ds : List Declaration} :
    Unrepeated ds ↔ ∀ path block, firstBlock path ds = some block → Distinct block := by
  refine ⟨fun h path block => h.firstBlock_distinct, ?_⟩
  suffices hinside : ∀ d : Declaration,
      (∀ path block, firstBlock path d.children = some block → Distinct block) →
        Unrepeated d.children from hinside (global ds)
  intro d
  induction d using induction with
  | node header children ih =>
    intro h
    have hhere : Distinct children := h [] children rfl
    refine .intro hhere ?_
    intro c hc hkind
    refine ih c hc ?_
    intro path block hblock
    refine h (c.name :: path) block ?_
    rw [children_node, firstBlock_of_distinct hhere hc (isSpace_iff.mpr ⟨hkind, rfl⟩), hblock]

/-! ## Merging one declaration -/

/-- A declaration goes behind its siblings, or it is a namespace and its children are merged into
those of the first sibling of its name. -/
theorem mergeInto_cases (siblings : List Declaration) (d : Declaration) :
    ((d.kind = .namespace → ∀ e ∈ siblings, isSpace d.name e = false) ∧
      mergeInto siblings d = siblings ++ [d]) ∨
    ∃ front e rest, siblings = front ++ e :: rest ∧ d.kind = .namespace ∧
      isSpace d.name e = true ∧
      mergeInto siblings d =
        front ++ .node e.header (mergeAll e.children d.children) :: rest := by
  by_cases hkind : d.kind = .namespace
  · cases hfind : siblings.find? (isSpace d.name) with
    | none =>
      rw [List.find?_eq_none] at hfind
      have habsent : ∀ e ∈ siblings, isSpace d.name e = false :=
        fun e he => Bool.eq_false_iff.mpr (hfind e he)
      refine .inl ⟨fun _ => habsent, ?_⟩
      obtain ⟨header, children⟩ := d
      rw [kind_node] at hkind
      rw [name_node] at habsent
      rw [mergeInto, if_pos hkind, changeFirst?_eq_none_iff.mpr habsent, Option.getD_none]
    | some e =>
      obtain ⟨hspace, front, rest, rfl, hfront⟩ := List.find?_eq_some_iff_append.mp hfind
      refine .inr ⟨front, e, rest, rfl, hkind, hspace, ?_⟩
      obtain ⟨header, children⟩ := d
      rw [kind_node] at hkind
      rw [name_node] at hspace hfront
      rw [mergeInto, if_pos hkind,
        changeFirst?_append rest (fun c hc => by simpa using hfront c hc) hspace,
        Option.getD_some, children_node]
  · exact .inl ⟨fun h => absurd h hkind, mergeInto_of_kind_ne hkind⟩

/-- Induction over a merge, which goes on behind a declaration and into a namespace. -/
@[elab_as_elim] theorem mergeAll_induction {motive : List Declaration → List Declaration → Prop}
    (nil : ∀ siblings, motive siblings [])
    (behind : ∀ siblings d ds,
      (d.kind = .namespace → ∀ e ∈ siblings, isSpace d.name e = false) →
      mergeInto siblings d = siblings ++ [d] →
      motive (siblings ++ [d]) ds → motive siblings (d :: ds))
    (inside : ∀ front e rest d ds, d.kind = .namespace → isSpace d.name e = true →
      mergeInto (front ++ e :: rest) d =
        front ++ .node e.header (mergeAll e.children d.children) :: rest →
      motive e.children d.children →
      motive (front ++ .node e.header (mergeAll e.children d.children) :: rest) ds →
      motive (front ++ e :: rest) (d :: ds))
    (siblings ds : List Declaration) : motive siblings ds := by
  have hrun : ∀ ds : List Declaration, (∀ d ∈ ds, ∀ siblings, motive siblings d.children) →
      ∀ siblings, motive siblings ds := by
    intro ds hchildren
    induction ds with
    | nil => exact nil
    | cons d ds ih =>
      intro siblings
      have hrest := ih fun e he => hchildren e (by simp [he])
      rcases mergeInto_cases siblings d with ⟨habsent, hmerge⟩ | ⟨front, e, rest, rfl, hkind,
        hspace, hmerge⟩
      · exact behind siblings d ds habsent hmerge (hrest _)
      · exact inside front e rest d ds hkind hspace hmerge (hchildren d (by simp) _) (hrest _)
  have hchildren : ∀ d : Declaration, ∀ siblings, motive siblings d.children := by
    intro d
    induction d using induction with
    | node header children ih => exact hrun children ih
  exact hrun ds (fun d _ => hchildren d) siblings

theorem isSpace_eq_of_isSpace_name {d e : Declaration} (hkind : d.kind = .namespace)
    (hspace : isSpace d.name e = true) (x : String) : isSpace x e = isSpace x d := by
  obtain ⟨hekind, hname⟩ := isSpace_iff.mp hspace
  rw [isSpace, isSpace, hkind, hekind, hname]

/-- Merging adds the paths of what is merged and no others. -/
theorem firstBlock_mergeAll_eq_none (siblings ds : List Declaration) (path : List String) :
    firstBlock path (mergeAll siblings ds) = none ↔
      firstBlock path siblings = none ∧ firstBlock path ds = none := by
  induction siblings, ds using mergeAll_induction generalizing path with
  | nil siblings => cases path <;> simp [firstBlock]
  | behind siblings d ds _ hmerge ih =>
    cases path with
    | nil => simp
    | cons x path =>
      rw [mergeAll_cons, hmerge, ih, firstBlock_append (List.cons_ne_nil x path),
        firstBlock_cons (List.cons_ne_nil x path) d ds, Option.or_eq_none_iff,
        Option.or_eq_none_iff, and_assoc]
  | inside front e rest d ds hkind hspace hmerge ihChildren ih =>
    cases path with
    | nil => simp
    | cons x path =>
      rw [mergeAll_cons, hmerge, ih]
      simp only [firstBlock_append (List.cons_ne_nil x path),
        firstBlock_cons (List.cons_ne_nil x path) _ rest,
        firstBlock_cons (List.cons_ne_nil x path) _ ds, firstBlock_singleton, isSpace_node_header,
        isSpace_eq_of_isSpace_name hkind hspace, children_node, Option.or_eq_none_iff]
      by_cases hx : isSpace x d = true
      · simp only [hx, if_true, ihChildren]
        tauto
      · simp only [hx, Bool.false_eq_true, if_false]
        tauto

/-! ## Merging and repeats -/

/-- The first blocks of the paths that siblings do not have are distinct inside. -/
def BringsDistinct (siblings ds : List Declaration) : Prop :=
  ∀ path block, firstBlock path siblings = none → firstBlock path ds = some block → Distinct block

theorem bringsDistinct_cons {siblings ds : List Declaration} {d : Declaration} :
    BringsDistinct siblings (d :: ds) ↔
      BringsDistinct siblings [d] ∧ BringsDistinct (mergeInto siblings d) ds := by
  have hnone : ∀ path, firstBlock path (mergeInto siblings d) = none ↔
      firstBlock path siblings = none ∧ firstBlock path [d] = none := by
    intro path
    rw [← firstBlock_mergeAll_eq_none siblings [d], mergeAll_cons, mergeAll_nil]
  have hpath : ∀ path, firstBlock path siblings = none → path ≠ [] := by
    rintro path h rfl
    cases h
  constructor
  · intro h
    constructor
    · intro path block hsiblings hblock
      refine h path block hsiblings ?_
      rw [firstBlock_cons (hpath path hsiblings), hblock, Option.some_or]
    · intro path block hmerged hblock
      obtain ⟨hsiblings, hd⟩ := (hnone path).mp hmerged
      refine h path block hsiblings ?_
      rw [firstBlock_cons (hpath path hsiblings), hd, Option.none_or, hblock]
  · rintro ⟨hd, hds⟩ path block hsiblings hblock
    rw [firstBlock_cons (hpath path hsiblings), Option.or_eq_some_iff] at hblock
    rcases hblock with hblock | ⟨hnoned, hblock⟩
    · exact hd path block hsiblings hblock
    · exact hds path block ((hnone path).mpr ⟨hsiblings, hnoned⟩) hblock

theorem bringsDistinct_singleton {siblings : List Declaration} {d : Declaration} :
    BringsDistinct siblings [d] ↔
      (d.kind = .namespace → ∀ path block, firstBlock (d.name :: path) siblings = none →
        firstBlock path d.children = some block → Distinct block) := by
  constructor
  · intro h hkind path block hnone hblock
    refine h (d.name :: path) block hnone ?_
    rw [firstBlock_singleton, if_pos (isSpace_iff.mpr ⟨hkind, rfl⟩), hblock]
  · intro h path block hnone hblock
    cases path with
    | nil => cases hnone
    | cons x path =>
      rw [firstBlock_singleton] at hblock
      split at hblock
      · rename_i hspace
        obtain ⟨hkind, rfl⟩ := isSpace_iff.mp hspace
        exact h hkind path block hnone hblock
      · cases hblock

/-- A namespace of a new name brings all its blocks. -/
theorem bringsDistinct_of_absent {siblings : List Declaration} {d : Declaration}
    (h : d.kind = .namespace → ∀ e ∈ siblings, isSpace d.name e = false) :
    BringsDistinct siblings [d] ↔ (d.kind = .namespace → Unrepeated d.children) := by
  rw [bringsDistinct_singleton]
  refine forall_congr' fun hkind => ?_
  have habsent := firstBlock_of_absent (h hkind)
  simp only [unrepeated_iff_firstBlock, habsent, true_imp_iff]

/-- A namespace whose name is there brings what its children bring to those of its namesake. -/
theorem bringsDistinct_of_distinct {siblings : List Declaration} {d e : Declaration}
    (hsiblings : Distinct siblings) (he : e ∈ siblings) (hkind : d.kind = .namespace)
    (hspace : isSpace d.name e = true) :
    BringsDistinct siblings [d] ↔ BringsDistinct e.children d.children := by
  have hfirst := firstBlock_of_distinct hsiblings he hspace
  rw [bringsDistinct_singleton, forall_prop_of_true hkind]
  simp only [hfirst, BringsDistinct]

/-- Merged siblings have no namespace twice exactly when they had none twice and what is merged
brings none. -/
theorem unrepeated_mergeAll (siblings ds : List Declaration) :
    Unrepeated (mergeAll siblings ds) ↔ Unrepeated siblings ∧ BringsDistinct siblings ds := by
  induction siblings, ds using mergeAll_induction with
  | nil siblings =>
    rw [mergeAll_nil]
    refine (and_iff_left ?_).symm
    intro path block hsiblings hblock
    cases path with
    | nil => cases hsiblings
    | cons x path => cases hblock
  | behind siblings d ds habsent hmerge ih =>
    rw [mergeAll_cons, bringsDistinct_cons, hmerge, ih, unrepeated_middle, List.append_nil,
      bringsDistinct_of_absent habsent, ← and_assoc]
    have hnew : d.kind = .namespace →
        ((∀ c ∈ siblings, isSpace d.name c = false) ∧ Unrepeated d.children ↔
          Unrepeated d.children) := fun hkind => and_iff_right (habsent hkind)
    rw [forall_congr' hnew]
  | inside front e rest d ds hkind hspace hmerge ihChildren ih =>
    have hbrings : Unrepeated (front ++ e :: rest) →
        (BringsDistinct (front ++ e :: rest) [d] ↔ BringsDistinct e.children d.children) :=
      fun h => bringsDistinct_of_distinct (unrepeated_iff.mp h).1 (by simp) hkind hspace
    have hekind : e.header.kind = .namespace := (isSpace_iff.mp hspace).1
    rw [mergeAll_cons, bringsDistinct_cons, hmerge, ih, ← and_assoc, and_congr_right hbrings,
      unrepeated_middle, unrepeated_middle]
    simp only [kind, name, header_node, children_node, ihChildren, hekind, forall_const]
    tauto

end Declaration

end DeclTree

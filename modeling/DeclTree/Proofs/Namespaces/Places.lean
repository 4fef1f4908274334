import DeclTree.Inheritance
import DeclTree.Proofs.Namespaces.Merging

/-!
# Places of namespaces in a tree

A path of namespaces may lead to several places of a tree. It leads to one at most, whatever the
path, exactly when no namespace inside namespaces has a sibling of its name. In a layered tree, one
with no namespace inside anything else, this is the same as to say it of all declarations. Merging
keeps trees layered, and closing moves nothing.
-/

namespace DeclTree

namespace Declaration

/-- Only namespaces are passed on the way to a place, and these are their names. -/
def SpaceAt (root : Declaration) (path : List String) (place : List Nat) : Prop :=
  ∃ passed, root.descent place = some passed ∧ (∀ d ∈ passed, d.kind = .namespace) ∧
    passed.map name = path

theorem spaceAt_nil {root : Declaration} {path : List String} :
    SpaceAt root path [] ↔ path = [] := by
  simp [SpaceAt, eq_comm]

theorem spaceAt_cons {root : Declaration} {path : List String} {i : Nat} {place : List Nat} :
    SpaceAt root path (i :: place) ↔
      ∃ c rest, root.children[i]? = some c ∧ c.kind = .namespace ∧ path = c.name :: rest ∧
        SpaceAt c rest place := by
  constructor
  · rintro ⟨passed, hpassed, hkinds, rfl⟩
    rw [descent_cons, Option.bind_eq_some_iff] at hpassed
    obtain ⟨c, hc, hpassed⟩ := hpassed
    obtain ⟨below, hbelow, rfl⟩ := Option.map_eq_some_iff.mp hpassed
    refine ⟨c, below.map name, hc, hkinds c (by simp), rfl, below, hbelow, ?_, rfl⟩
    exact fun d hd => hkinds d (by simp [hd])
  · rintro ⟨c, rest, hc, hkind, rfl, below, hbelow, hkinds, rfl⟩
    refine ⟨c :: below, by simp [hc, hbelow], ?_, rfl⟩
    simpa [hkind] using hkinds

/-- Every path of namespaces leads to one place at most. -/
def OnePlace (root : Declaration) : Prop :=
  ∀ path place other, SpaceAt root path place → SpaceAt root path other → place = other

theorem Distinct.index_eq {ds : List Declaration} (h : Distinct ds) {i j : Nat}
    {c d : Declaration} (hc : ds[i]? = some c) (hd : ds[j]? = some d)
    (hkindc : c.kind = .namespace) (hkindd : d.kind = .namespace) (hname : c.name = d.name) :
    i = j := by
  obtain ⟨hi, rfl⟩ := List.getElem?_eq_some_iff.mp hc
  obtain ⟨hj, rfl⟩ := List.getElem?_eq_some_iff.mp hd
  have hpairs := List.pairwise_iff_getElem.mp h
  rcases Nat.lt_trichotomy i j with hlt | heq | hlt
  · exact absurd hname (hpairs i j hi hj hlt hkindc hkindd)
  · exact heq
  · exact absurd hname.symm (hpairs j i hj hi hlt hkindd hkindc)

theorem Unrepeated.onePlace {root : Declaration} (h : Unrepeated root.children) :
    OnePlace root := by
  intro path place other hplace hother
  induction place generalizing root path other with
  | nil =>
    obtain rfl := spaceAt_nil.mp hplace
    cases other with
    | nil => rfl
    | cons j other =>
      obtain ⟨c, rest, -, -, hpath, -⟩ := spaceAt_cons.mp hother
      cases hpath
  | cons i place ih =>
    obtain ⟨c, rest, hc, hkindc, rfl, hbelow⟩ := spaceAt_cons.mp hplace
    cases other with
    | nil => cases spaceAt_nil.mp hother
    | cons j other =>
      obtain ⟨d, rest', hd, hkindd, hpath, hbelow'⟩ := spaceAt_cons.mp hother
      obtain ⟨hname, rfl⟩ := List.cons_eq_cons.mp hpath
      obtain ⟨hhere, hinside⟩ := unrepeated_iff.mp h
      obtain rfl := hhere.index_eq hc hd hkindc hkindd hname
      cases hc.symm.trans hd
      rw [ih (hinside c (List.mem_of_getElem? hc) hkindc) rest other hbelow hbelow']

theorem OnePlace.unrepeated {root : Declaration} (h : OnePlace root) :
    Unrepeated root.children := by
  induction root using induction with
  | node header children ih =>
    refine .intro (List.pairwise_iff_getElem.mpr ?_) ?_
    · intro i j hi hj hlt hkindi hkindj hname
      have hplace : ∀ k (hk : k < children.length), children[k].kind = .namespace →
          SpaceAt (.node header children) [children[k].name] [k] := by
        intro k hk hkind
        exact spaceAt_cons.mpr ⟨children[k], [], by simp, hkind, rfl, spaceAt_nil.mpr rfl⟩
      have hindex := h _ _ _ (hplace i hi hkindi) (hname ▸ hplace j hj hkindj)
      simp only [List.cons.injEq, and_true] at hindex
      omega
    · intro c hc hkind
      refine ih c hc ?_
      intro path place other hplace hother
      obtain ⟨i, hi⟩ := List.getElem?_of_mem hc
      have hbelow : ∀ place, SpaceAt c path place →
          SpaceAt (.node header children) (c.name :: path) (i :: place) :=
        fun place hplace => spaceAt_cons.mpr ⟨c, path, hi, hkind, rfl, hplace⟩
      exact (List.cons_eq_cons.mp (h _ _ _ (hbelow place hplace) (hbelow other hother))).2

theorem onePlace_iff {root : Declaration} : OnePlace root ↔ Unrepeated root.children :=
  ⟨OnePlace.unrepeated, Unrepeated.onePlace⟩

theorem spaceAt_closeIn (index : List Inheritance.Site) (scope : String) {d : Declaration}
    {path : List String} {place : List Nat} :
    SpaceAt (Inheritance.closeIn index scope d) path place ↔ SpaceAt d path place := by
  induction place generalizing scope d path with
  | nil => rw [spaceAt_nil, spaceAt_nil]
  | cons i place ih =>
    obtain ⟨header, children⟩ := d
    simp only [spaceAt_cons, Inheritance.closeIn, Inheritance.closeAllIn_eq_map, children_node,
      List.getElem?_map]
    cases children[i]? with
    | none => simp
    | some c =>
      obtain ⟨inner, below⟩ := c
      simp only [Option.map_some, Option.some.injEq, exists_and_left, exists_eq_left']
      simp only [ih]
      simp [Inheritance.closeIn, Inheritance.closeHeader]

theorem onePlace_close {root : Declaration} : OnePlace root.close ↔ OnePlace root := by
  simp only [OnePlace, close, spaceAt_closeIn]

/-! ## Layered trees -/

/-- No declaration of a tree has two namespaces of one name as children. -/
inductive NoRepeats : Declaration → Prop
  | node {header : Header} {children : List Declaration} (here : Distinct children)
      (inside : ∀ c ∈ children, NoRepeats c) : NoRepeats (.node header children)

/-- Nothing in a declaration is a namespace, and it is none itself. -/
inductive Plain : Declaration → Prop
  | node {header : Header} {children : List Declaration} (kind : header.kind ≠ .namespace)
      (inside : ∀ c ∈ children, Plain c) : Plain (.node header children)

/-- All namespaces in a declaration stand directly in namespaces or are the declaration itself. -/
inductive Layered : Declaration → Prop
  | plain {d : Declaration} (h : Plain d) : Layered d
  | space {header : Header} {children : List Declaration} (kind : header.kind = .namespace)
      (inside : ∀ c ∈ children, Layered c) : Layered (.node header children)

theorem Plain.kind_ne {d : Declaration} (h : Plain d) : d.kind ≠ .namespace := by
  cases h with
  | node kind inside => exact kind

theorem Plain.noRepeats {d : Declaration} (h : Plain d) : NoRepeats d := by
  induction h with
  | node kind inside ih =>
    refine .node (List.pairwise_of_forall_mem_list ?_) ih
    intro c hc d _ hkind
    exact absurd hkind (inside c hc).kind_ne

theorem Layered.plain_of_kind_ne {d : Declaration} (h : Layered d) (hkind : d.kind ≠ .namespace) :
    Plain d := by
  cases h with
  | plain h => exact h
  | space kind inside => exact absurd kind hkind

theorem Layered.children {d : Declaration} (h : Layered d) (hkind : d.kind = .namespace) :
    ∀ c ∈ d.children, Layered c := by
  cases h with
  | plain h => exact absurd hkind h.kind_ne
  | space kind inside => exact inside

theorem NoRepeats.unrepeated {d : Declaration} (h : NoRepeats d) : Unrepeated d.children := by
  induction h with
  | node here inside ih => exact .intro here fun c hc _ => ih c hc

theorem Layered.noRepeats {d : Declaration} (h : Layered d)
    (hspace : d.kind = .namespace → Unrepeated d.children) : NoRepeats d := by
  induction h with
  | plain h => exact h.noRepeats
  | space kind inside ih =>
    obtain ⟨hhere, hinside⟩ := unrepeated_iff.mp (hspace kind)
    exact .node hhere fun c hc => ih c hc (hinside c hc)

theorem Layered.noRepeats_iff {d : Declaration} (h : Layered d) :
    NoRepeats d ↔ Unrepeated d.children :=
  ⟨NoRepeats.unrepeated, fun hchildren => h.noRepeats fun _ => hchildren⟩

theorem layered_nested {ds : List Declaration} (h : ∀ d ∈ ds, Layered d) (segments : List String) :
    ∀ d ∈ nested segments ds, Layered d := by
  induction segments with
  | nil => exact h
  | cons segment segments ih =>
    intro d hd
    obtain rfl := List.mem_singleton.mp hd
    exact .space rfl ih

theorem layered_mergeAll (siblings ds : List Declaration) (hsiblings : ∀ d ∈ siblings, Layered d)
    (hds : ∀ d ∈ ds, Layered d) : ∀ d ∈ mergeAll siblings ds, Layered d := by
  induction siblings, ds using mergeAll_induction with
  | nil siblings => simpa using hsiblings
  | behind siblings d ds _ hmerge ih =>
    rw [mergeAll_cons, hmerge]
    refine ih ?_ fun c hc => hds c (by simp [hc])
    intro c hc
    rcases List.mem_append.mp hc with hc | hc
    · exact hsiblings c hc
    · exact hds c (by simp_all)
  | inside front e rest d ds hkind hspace hmerge ihChildren ih =>
    have hekind := (isSpace_iff.mp hspace).1
    rw [mergeAll_cons, hmerge]
    refine ih ?_ fun c hc => hds c (by simp [hc])
    intro c hc
    simp only [List.mem_append, List.mem_cons] at hc
    rcases hc with hc | rfl | hc
    · exact hsiblings c (by simp [hc])
    · refine .space hekind (ihChildren ?_ ?_)
      · exact (hsiblings e (by simp)).children hekind
      · exact (hds d (by simp)).children hkind
    · exact hsiblings c (by simp [hc])

end Declaration

end DeclTree

import DeclTree.Declaration

/-!
# Occurrences of declarations in a tree

A declaration below a root is named by its place, the list of child positions on the way down.
Places and not declarations tell occurrences apart, since equal declarations may stand at several
places. Compared as lists of numbers, an initial part before its extensions, places are in
pre-order. `occurrences` lists all occurrences below a root in this order, each once, together with
the declarations passed on the way; no query and no scope enters here.
-/

namespace DeclTree

namespace Declaration

/-- What holds of a declaration as soon as it holds of all its children holds of every one. -/
@[elab_as_elim] theorem induction {motive : Declaration → Prop}
    (node : ∀ header children, (∀ c ∈ children, motive c) → motive (.node header children)) :
    ∀ d, motive d
  | .node header children => node header children fun c _ => induction node c

/-- The declarations passed on the way down along child positions, the last one included; none if
the way leaves the tree. -/
def descent : Declaration → List Nat → Option (List Declaration)
  | _, [] => some []
  | d, i :: place => d.children[i]?.bind fun c => (c.descent place).map (c :: ·)

@[simp] theorem descent_nil (d : Declaration) : d.descent [] = some [] := rfl

@[simp] theorem descent_cons (d : Declaration) (i : Nat) (place : List Nat) :
    d.descent (i :: place) = d.children[i]?.bind fun c => (c.descent place).map (c :: ·) := rfl

end Declaration

/-- A declaration somewhere below a root. -/
structure Occurrence where
  place : List Nat
  /-- The declarations passed before it, the outermost first and the root left out. -/
  ancestors : List Declaration
  target : Declaration

namespace Occurrence

def path (o : Occurrence) : List Declaration := o.ancestors ++ [o.target]

/-- The place of the occurrence is inside the tree, and this is what is found on the way to it. -/
def Below (root : Declaration) (o : Occurrence) : Prop := root.descent o.place = some o.path

/-- The occurrence seen from the parent of the root it lies below. -/
def under (i : Nat) (d : Declaration) (o : Occurrence) : Occurrence :=
  ⟨i :: o.place, d :: o.ancestors, o.target⟩

@[simp] theorem path_under (i : Nat) (d : Declaration) (o : Occurrence) :
    (o.under i d).path = d :: o.path := rfl

theorem path_ne_nil (o : Occurrence) : o.path ≠ [] := by simp [path]

/-- An occurrence is determined by its place and what is on the way to it. -/
theorem ext_path {o p : Occurrence} (hplace : o.place = p.place) (hpath : o.path = p.path) :
    o = p := by
  obtain ⟨place, ancestors, target⟩ := o
  obtain ⟨place', ancestors', target'⟩ := p
  obtain ⟨rfl, rfl⟩ := List.append_singleton_inj.mp hpath
  cases hplace
  rfl

end Occurrence

namespace Declaration

mutual

/-- The occurrences of a declaration that is the child at a position, and of all below it. -/
def occurrencesAt (i : Nat) : Declaration → List Occurrence
  | .node header children =>
    ⟨[i], [], .node header children⟩ ::
      (occurrencesFrom 0 children).map (Occurrence.under i (.node header children))

/-- The occurrences in siblings of which the first is the child at a position. -/
def occurrencesFrom (i : Nat) : List Declaration → List Occurrence
  | [] => []
  | d :: ds => occurrencesAt i d ++ occurrencesFrom (i + 1) ds

end

def occurrences (root : Declaration) : List Occurrence := occurrencesFrom 0 root.children

theorem occurrencesAt_eq (i : Nat) (d : Declaration) :
    occurrencesAt i d = ⟨[i], [], d⟩ :: d.occurrences.map (Occurrence.under i d) := by
  cases d
  simp [occurrencesAt, occurrences]

@[simp] theorem occurrencesFrom_nil (i : Nat) : occurrencesFrom i [] = [] := by
  simp [occurrencesFrom]

@[simp] theorem occurrencesFrom_cons (i : Nat) (d : Declaration) (ds : List Declaration) :
    occurrencesFrom i (d :: ds) = occurrencesAt i d ++ occurrencesFrom (i + 1) ds := by
  simp [occurrencesFrom]

theorem mem_occurrencesFrom {i : Nat} {ds : List Declaration} {o : Occurrence} :
    o ∈ occurrencesFrom i ds ↔ ∃ j c, ds[j]? = some c ∧ o ∈ occurrencesAt (i + j) c := by
  induction ds generalizing i with
  | nil => simp
  | cons d ds ih =>
    rw [occurrencesFrom_cons, List.mem_append, ih]
    constructor
    · rintro (h | ⟨j, c, hc, h⟩)
      · exact ⟨0, d, rfl, h⟩
      · exact ⟨j + 1, c, hc, by rwa [← Nat.add_assoc, Nat.add_right_comm]⟩
    · rintro ⟨_ | j, c, hc, h⟩
      · cases hc
        exact .inl h
      · exact .inr ⟨j, c, hc, by rwa [Nat.add_assoc, Nat.add_comm 1]⟩

theorem mem_occurrencesAt {i : Nat} {d : Declaration} {o : Occurrence} :
    o ∈ occurrencesAt i d ↔
      ∃ place, o.place = i :: place ∧ (d.descent place).map (d :: ·) = some o.path := by
  induction d using induction generalizing i o with
  | node header children ih =>
    rw [occurrencesAt_eq, List.mem_cons, List.mem_map]
    constructor
    · rintro (rfl | ⟨p, hp, rfl⟩)
      · exact ⟨[], rfl, rfl⟩
      · obtain ⟨j, c, hc, hp⟩ := mem_occurrencesFrom.mp hp
        obtain ⟨place, hplace, hway⟩ := (ih c (List.mem_of_getElem? hc)).mp hp
        rw [children_node] at hc
        refine ⟨j :: place, ?_, ?_⟩
        · simp [Occurrence.under, hplace]
        · simp [hc, hway]
    · rintro ⟨_ | ⟨j, place⟩, hplace, hway⟩
      · left
        apply Occurrence.ext_path hplace
        simpa [Occurrence.path] using hway.symm
      · right
        simp only [descent_cons, children_node, Option.map_eq_some_iff,
          Option.bind_eq_some_iff] at hway
        obtain ⟨_, ⟨c, hc, ds, hds, rfl⟩, hpath⟩ := hway
        -- The rest of the way has the target at its end, so it is an occurrence on its own.
        obtain ⟨front, last, hlast⟩ : ∃ front last, c :: ds = front ++ [last] :=
          ⟨_, _, (List.dropLast_concat_getLast (List.cons_ne_nil c ds)).symm⟩
        refine ⟨⟨j :: place, front, last⟩, mem_occurrencesFrom.mpr ⟨j, c, hc, ?_⟩, ?_⟩
        · refine (ih c (List.mem_of_getElem? hc)).mpr ⟨place, by simp, ?_⟩
          rw [hds, Option.map_some, hlast, Occurrence.path]
        · apply Occurrence.ext_path
          · rw [hplace, Occurrence.under]
          · rw [Occurrence.path_under, ← hpath, hlast, Occurrence.path]

/-- Every occurrence below a root is listed, and nothing else. -/
theorem mem_occurrences {root : Declaration} {o : Occurrence} :
    o ∈ root.occurrences ↔ o.Below root := by
  rw [occurrences, mem_occurrencesFrom, Occurrence.Below]
  constructor
  · rintro ⟨i, c, hc, h⟩
    obtain ⟨place, hplace, hway⟩ := mem_occurrencesAt.mp h
    rw [hplace, Nat.zero_add, descent_cons, hc, Option.bind_some, hway]
  · intro h
    cases hplace : o.place with
    | nil =>
      rw [hplace, descent_nil, Option.some.injEq] at h
      exact absurd h.symm o.path_ne_nil
    | cons i place =>
      rw [hplace, descent_cons, Option.bind_eq_some_iff] at h
      obtain ⟨c, hc, hway⟩ := h
      exact ⟨i, c, hc, mem_occurrencesAt.mpr ⟨place, by rw [hplace, Nat.zero_add], hway⟩⟩

theorem place_ge_of_mem_occurrencesFrom {i : Nat} {ds : List Declaration} {o : Occurrence}
    (h : o ∈ occurrencesFrom i ds) : ∃ j place, i ≤ j ∧ o.place = j :: place := by
  obtain ⟨j, c, -, hc⟩ := mem_occurrencesFrom.mp h
  obtain ⟨place, hplace, -⟩ := mem_occurrencesAt.mp hc
  exact ⟨i + j, place, Nat.le_add_right i j, hplace⟩

theorem pairwise_occurrencesFrom {i : Nat} {ds : List Declaration}
    (h : ∀ d ∈ ds, ∀ j, (occurrencesAt j d).Pairwise fun o p => o.place < p.place) :
    (occurrencesFrom i ds).Pairwise fun o p => o.place < p.place := by
  induction ds generalizing i with
  | nil => simp
  | cons d ds ih =>
    rw [occurrencesFrom_cons, List.pairwise_append]
    refine ⟨h d (by simp) i, ih fun e he => h e (by simp [he]), ?_⟩
    intro o ho p hp
    obtain ⟨place, hplace, -⟩ := mem_occurrencesAt.mp ho
    obtain ⟨j, place', hj, hplace'⟩ := place_ge_of_mem_occurrencesFrom hp
    rw [hplace, hplace', List.cons_lt_cons_iff]
    exact .inl hj

theorem pairwise_occurrencesAt (i : Nat) (d : Declaration) :
    (occurrencesAt i d).Pairwise fun o p => o.place < p.place := by
  induction d using induction generalizing i with
  | node header children ih =>
    rw [occurrencesAt_eq, List.pairwise_cons, List.pairwise_map]
    refine ⟨?_, ?_⟩
    · intro o ho
      obtain ⟨p, hp, rfl⟩ := List.mem_map.mp ho
      obtain ⟨j, place, -, hplace⟩ := place_ge_of_mem_occurrencesFrom hp
      simp [Occurrence.under, hplace]
    · have hbelow := pairwise_occurrencesFrom (i := 0) fun c hc j => ih c hc j
      exact hbelow.imp fun hlt => List.cons_lt_cons_iff.mpr (.inr ⟨rfl, hlt⟩)

/-- The list is in pre-order, so no occurrence is in it twice. -/
theorem pairwise_occurrences (root : Declaration) :
    root.occurrences.Pairwise fun o p => o.place < p.place :=
  pairwise_occurrencesFrom fun d _ j => pairwise_occurrencesAt j d

end Declaration

end DeclTree

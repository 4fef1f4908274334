import DeclTree.Proofs.Source.Layers
import DeclTree.Proofs.Source.Spaces
import Mathlib.Data.List.Forall2

/-!
# Members of TypeScript classes

The body of a class declares its methods, fields and accessors in their order. Decorators stand
among them: a member takes those directly before it, with nothing in between, and then the ones that
are part of it, so no decorator goes to two members. A getter and a setter of one name are one
property. They may stand apart and be any number, and the first of them is the one that is read;
methods and fields are read whatever their names are.

Members are told apart by their places in the body, since two of them may be equal as trees.
-/

namespace DeclTree.TypeScript

open ParseTree

/-! ## Places in the body of a class -/

/-- The nodes in the body of a class. -/
def bodyNodes (t : ParseTree) : List ParseTree := (t.child? "body").elim [] namedChildren

def methodKinds : List String :=
  ["method_definition", "method_signature", "abstract_method_signature"]

/-- A node declares a member of a kind and has a node for its name. -/
inductive IsMember (t : ParseTree) : Kind → ParseTree → Prop
  | accessor {name : ParseTree} : t.kind ∈ methodKinds →
      (∃ c ∈ t.children, c.kind = "get" ∨ c.kind = "set") → t.child? "name" = some name →
      IsMember t .property name
  | method {name : ParseTree} : t.kind ∈ methodKinds →
      (∀ c ∈ t.children, c.kind ≠ "get" ∧ c.kind ≠ "set") → t.child? "name" = some name →
      IsMember t .method name
  | field {name : ParseTree} : t.kind = "public_field_definition" →
      t.child? "name" = some name → IsMember t .field name

def MemberAt (siblings : List ParseTree) (i : Nat) (kind : Kind) (name : ParseTree) : Prop :=
  ∃ t, siblings[i]? = some t ∧ IsMember t kind name

def DecoratorAt (siblings : List ParseTree) (i : Nat) : Prop :=
  (siblings[i]?.map kind) = some "decorator"

/-- There is a decorator at the first place, and nothing but decorators up to the second. -/
def RunsTo (siblings : List ParseTree) (k i : Nat) : Prop :=
  k < i ∧ ∀ m < i, k ≤ m → DecoratorAt siblings m

instance (siblings : List ParseTree) (i : Nat) : Decidable (DecoratorAt siblings i) :=
  inferInstanceAs (Decidable (_ = _))

instance (siblings : List ParseTree) (k i : Nat) : Decidable (RunsTo siblings k i) :=
  inferInstanceAs (Decidable (_ ∧ _))

/-- The unbroken run of decorators directly before a place. -/
def runBefore (siblings : List ParseTree) (i : Nat) : List ParseTree :=
  ((List.range i).filter fun k => RunsTo siblings k i).filterMap fun k => siblings[k]?

/-- What the member at a place is read as. -/
inductive LoweredAt (siblings : List ParseTree) (i : Nat) : Declaration → Prop
  | mk {t name : ParseTree} {kind : Kind} (here : siblings[i]? = some t)
      (member : IsMember t kind name) :
      LoweredAt siblings i (.node
        { kind, name := name.text, visibility := memberVisibility name t,
          annotations := (runBefore siblings i).filterMap decoratorType? ++ decorators t }
        (if kind = .method then typeParameters t ++ parameters t else []))

/-- The member at a place is no accessor, or there is none of its name before it. -/
def KeptAt (siblings : List ParseTree) (i : Nat) : Prop :=
  ∃ kind name, MemberAt siblings i kind name ∧
    (kind = .property → ∀ j < i, ∀ other, MemberAt siblings j .property other →
      other.text ≠ name.text)

/-! ## Members -/

theorem isAccessor_iff {t : ParseTree} :
    isAccessor t = true ↔ ∃ c ∈ t.children, c.kind = "get" ∨ c.kind = "set" := by
  simp [isAccessor]

theorem memberKind?_of_mem_methodKinds {t : ParseTree} (h : t.kind ∈ methodKinds) :
    memberKind? t = some (if isAccessor t then .property else .method) := by
  simp only [methodKinds, List.mem_cons, List.not_mem_nil, or_false] at h
  rcases h with h | h | h <;> simp [memberKind?, h]

theorem mem_methodKinds_or_of_memberKind? {t : ParseTree} {kind : Kind}
    (h : memberKind? t = some kind) :
    t.kind ∈ methodKinds ∨ t.kind = "public_field_definition" ∧ kind = .field := by
  unfold memberKind? at h
  split at h
  · rename_i hkind
    exact .inl (by simp [methodKinds, hkind])
  · rename_i hkind
    exact .inl (by simp [methodKinds, hkind])
  · rename_i hkind
    exact .inl (by simp [methodKinds, hkind])
  · rename_i hkind
    cases h
    exact .inr ⟨hkind, rfl⟩
  · cases h

theorem isMember_of_mem_methodKinds {t name : ParseTree} (h : t.kind ∈ methodKinds)
    (hname : t.child? "name" = some name) :
    IsMember t (if isAccessor t then .property else .method) name := by
  split
  · rename_i haccessor
    exact .accessor h (isAccessor_iff.mp haccessor) hname
  · rename_i haccessor
    exact .method h (by simpa [isAccessor] using haccessor) hname

theorem isMember_iff {t name : ParseTree} {kind : Kind} :
    IsMember t kind name ↔ memberKind? t = some kind ∧ t.child? "name" = some name := by
  constructor
  · rintro (⟨hkind, haccessor, hname⟩ | ⟨hkind, haccessor, hname⟩ | ⟨hkind, hname⟩)
    · have hmember : isAccessor t = true := isAccessor_iff.mpr haccessor
      exact ⟨by rw [memberKind?_of_mem_methodKinds hkind, if_pos hmember], hname⟩
    · have hmember : isAccessor t = false := by simpa [isAccessor] using haccessor
      exact ⟨by simp [memberKind?_of_mem_methodKinds hkind, hmember], hname⟩
    · exact ⟨by simp [memberKind?, hkind], hname⟩
  · rintro ⟨hmember, hname⟩
    rcases mem_methodKinds_or_of_memberKind? hmember with hkind | ⟨hkind, rfl⟩
    · rw [memberKind?_of_mem_methodKinds hkind] at hmember
      cases hmember
      exact isMember_of_mem_methodKinds hkind hname
    · exact .field hkind hname

theorem MemberAt.unique {siblings : List ParseTree} {i : Nat} {kind kind' : Kind}
    {name name' : ParseTree} (h : MemberAt siblings i kind name)
    (h' : MemberAt siblings i kind' name') : kind = kind' ∧ name = name' := by
  obtain ⟨t, ht, hmember⟩ := h
  obtain ⟨u, hu, hmember'⟩ := h'
  obtain rfl : t = u := Option.some.inj (ht.symm.trans hu)
  obtain ⟨hkind, hname⟩ := isMember_iff.mp hmember
  obtain ⟨hkind', hname'⟩ := isMember_iff.mp hmember'
  exact ⟨Option.some.inj (hkind.symm.trans hkind'), Option.some.inj (hname.symm.trans hname')⟩

/-- What is declared at a place, if it is a member. -/
def memberAt? (siblings : List ParseTree) (i : Nat) : Option Declaration :=
  siblings[i]?.bind (member? ((runBefore siblings i).filterMap decoratorType?))

theorem memberAt?_eq_some_iff {siblings : List ParseTree} {i : Nat} {d : Declaration} :
    memberAt? siblings i = some d ↔ LoweredAt siblings i d := by
  constructor
  · intro h
    obtain ⟨t, ht, h⟩ := Option.bind_eq_some_iff.mp h
    obtain ⟨kind, hkind, h⟩ := Option.bind_eq_some_iff.mp h
    obtain ⟨name, hname, h⟩ := Option.bind_eq_some_iff.mp h
    cases h
    exact .mk ht (isMember_iff.mpr ⟨hkind, hname⟩)
  · rintro ⟨ht, hmember⟩
    obtain ⟨hkind, hname⟩ := isMember_iff.mp hmember
    simp [memberAt?, ht, member?, hkind, hname]

theorem memberAt_iff {siblings : List ParseTree} {i : Nat} {kind : Kind} {name : String} :
    (∃ node, MemberAt siblings i kind node ∧ node.text = name) ↔
      ∃ d, memberAt? siblings i = some d ∧ d.kind = kind ∧ d.name = name := by
  constructor
  · rintro ⟨node, ⟨t, ht, hmember⟩, rfl⟩
    exact ⟨_, memberAt?_eq_some_iff.mpr (.mk ht hmember), rfl, rfl⟩
  · rintro ⟨d, hd, rfl, rfl⟩
    obtain ⟨ht, hmember⟩ := memberAt?_eq_some_iff.mp hd
    exact ⟨_, ⟨_, ht, hmember⟩, rfl⟩

theorem not_memberAt_of_decoratorAt {siblings : List ParseTree} {i : Nat} {kind : Kind}
    {name : ParseTree} (h : DecoratorAt siblings i) : ¬MemberAt siblings i kind name := by
  rintro ⟨t, ht, hmember⟩
  have hkind : t.kind = "decorator" := by simpa [DecoratorAt, ht] using h
  have hnone : memberKind? t = none := by simp [memberKind?, hkind]
  obtain ⟨hsome, -⟩ := isMember_iff.mp hmember
  rw [hnone] at hsome
  cases hsome

/-! ## Runs of decorators -/

theorem runsTo_succ {siblings : List ParseTree} {k i : Nat} :
    RunsTo siblings k (i + 1) ↔ DecoratorAt siblings i ∧ (RunsTo siblings k i ∨ k = i) := by
  constructor
  · rintro ⟨hlt, hall⟩
    refine ⟨hall i (by omega) (by omega), ?_⟩
    by_cases hki : k = i
    · exact .inr hki
    · exact .inl ⟨by omega, fun m hm => hall m (by omega)⟩
  · rintro ⟨hi, hrun⟩
    constructor
    · rcases hrun with ⟨hlt, -⟩ | rfl <;> omega
    · intro m hm hkm
      by_cases hmi : m = i
      · exact hmi ▸ hi
      · rcases hrun with ⟨-, hall⟩ | rfl
        · exact hall m (by omega) hkm
        · omega

/-- Two members share no decorator: the one that comes first would stand in the run of the other. -/
theorem eq_of_runsTo {siblings : List ParseTree} {k i j : Nat} {kind kind' : Kind}
    {name name' : ParseTree} (hi : MemberAt siblings i kind name)
    (hj : MemberAt siblings j kind' name') (hki : RunsTo siblings k i)
    (hkj : RunsTo siblings k j) : i = j := by
  rcases Nat.lt_trichotomy i j with hij | hij | hij
  · exact absurd hi (not_memberAt_of_decoratorAt (hkj.2 i hij (Nat.le_of_lt hki.1)))
  · exact hij
  · exact absurd hj (not_memberAt_of_decoratorAt (hki.2 j hij (Nat.le_of_lt hkj.1)))

theorem runBefore_succ {siblings : List ParseTree} {i : Nat} {t : ParseTree}
    (ht : siblings[i]? = some t) :
    runBefore siblings (i + 1) =
      if t.kind = "decorator" then runBefore siblings i ++ [t] else [] := by
  have hdecorator : DecoratorAt siblings i ↔ t.kind = "decorator" := by simp [DecoratorAt, ht]
  rw [runBefore, List.range_succ, List.filter_append, List.filterMap_append]
  split
  · rename_i hkind
    have hold : ∀ k ∈ List.range i, RunsTo siblings k (i + 1) ↔ RunsTo siblings k i := by
      intro k hk
      rw [runsTo_succ, hdecorator, and_iff_right hkind, or_iff_left]
      have := List.mem_range.mp hk
      omega
    have hlast : RunsTo siblings i (i + 1) := runsTo_succ.mpr ⟨hdecorator.mpr hkind, .inr rfl⟩
    have hfilter : ((List.range i).filter fun k => RunsTo siblings k (i + 1)) =
        (List.range i).filter fun k => RunsTo siblings k i :=
      List.filter_congr fun k hk => decide_eq_decide.mpr (hold k hk)
    rw [hfilter]
    simp [runBefore, hlast, ht]
  · rename_i hkind
    have hnone : ∀ k, ¬RunsTo siblings k (i + 1) := by
      intro k h
      exact hkind (hdecorator.mp (runsTo_succ.mp h).1)
    simp [hnone]

/-- The loop over the rest of a body, with the run before it, is a walk along the places. -/
theorem membersFrom_eq {siblings rest : List ParseTree} (front : List ParseTree)
    (h : siblings = front ++ rest) :
    membersFrom ((runBefore siblings front.length).filterMap decoratorType?) rest =
      (List.range' front.length rest.length).filterMap (memberAt? siblings) := by
  induction rest generalizing front with
  | nil => rfl
  | cons t rest ih =>
    have ht : siblings[front.length]? = some t := by simp [h]
    have hnext := ih (front ++ [t]) (by simp [h])
    rw [List.length_append, List.length_singleton, runBefore_succ ht] at hnext
    rw [List.length_cons, List.range'_succ, membersFrom]
    split
    · rename_i hkind
      have hnone : memberAt? siblings front.length = none := by
        simp [memberAt?, ht, member?, memberKind?, hkind]
      rw [if_pos hkind, List.filterMap_append] at hnext
      rw [List.filterMap_cons_none hnone, ← hnext]
      cases hd : decoratorType? t <;> simp [hd]
    · rename_i hkind
      have hmember : memberAt? siblings front.length =
          member? ((runBefore siblings front.length).filterMap decoratorType?) t := by
        simp [memberAt?, ht]
      rw [if_neg hkind, List.filterMap_nil] at hnext
      rw [List.filterMap_cons, hmember, hnext]
      cases member? ((runBefore siblings front.length).filterMap decoratorType?) t <;> rfl

theorem membersFrom_eq_filterMap (siblings : List ParseTree) :
    membersFrom [] siblings = (List.range siblings.length).filterMap (memberAt? siblings) := by
  rw [List.range_eq_range']
  -- No decorators are pending in front of the first node, where the run is empty.
  exact membersFrom_eq [] rfl

/-! ## Pairing -/

def accessorNames (ds : List Declaration) : List String :=
  (ds.filter fun d => d.kind = .property).map Declaration.name

theorem accessorNames_cons_of_eq {d : Declaration} (h : d.kind = .property)
    (ds : List Declaration) : accessorNames (d :: ds) = d.name :: accessorNames ds := by
  simp [accessorNames, h]

theorem accessorNames_cons_of_ne {d : Declaration} (h : d.kind ≠ .property)
    (ds : List Declaration) : accessorNames (d :: ds) = accessorNames ds := by
  simp [accessorNames, h]

/-- The last declaration is left out if it is a property and one of its name was there before. -/
theorem pairAccessors_append_singleton (seen : List String) (ds : List Declaration)
    (d : Declaration) :
    pairAccessors seen (ds ++ [d]) = pairAccessors seen ds ++
      if d.kind = .property ∧ (d.name ∈ seen ∨ d.name ∈ accessorNames ds) then [] else [d] := by
  induction ds generalizing seen with
  | nil =>
    by_cases hkind : d.kind = .property <;> by_cases hseen : d.name ∈ seen <;>
      simp [pairAccessors, accessorNames, hkind, hseen]
  | cons c ds ih =>
    rw [List.cons_append, pairAccessors, pairAccessors]
    by_cases hkind : c.kind = .property
    · rw [if_pos hkind, if_pos hkind, accessorNames_cons_of_eq hkind]
      split
      · rename_i hseen
        have habsorb : d.name = c.name → d.name ∈ seen := by
          intro heq
          simpa [heq] using hseen
        have hiff : d.name ∈ seen ∨ d.name ∈ c.name :: accessorNames ds ↔
            d.name ∈ seen ∨ d.name ∈ accessorNames ds := by
          rw [List.mem_cons, ← or_assoc, or_iff_left_of_imp habsorb]
        rw [ih]
        simp only [hiff]
      · rw [ih, List.cons_append]
        simp only [List.mem_cons, or_assoc, or_left_comm]
    · rw [if_neg hkind, if_neg hkind, accessorNames_cons_of_ne hkind, ih, List.cons_append]

theorem nodup_accessorNames_pairAccessors (seen : List String) (ds : List Declaration) :
    (accessorNames (pairAccessors seen ds)).Nodup ∧
      ∀ name ∈ accessorNames (pairAccessors seen ds), name ∉ seen := by
  induction ds generalizing seen with
  | nil => simp [pairAccessors, accessorNames]
  | cons d ds ih =>
    rw [pairAccessors]
    split
    · rename_i hkind
      split
      · exact ih seen
      · rename_i hseen
        obtain ⟨hnodup, hnew⟩ := ih (d.name :: seen)
        rw [accessorNames_cons_of_eq hkind]
        refine ⟨List.nodup_cons.mpr ⟨fun hmem => hnew _ hmem List.mem_cons_self, hnodup⟩, ?_⟩
        intro name hname
        rcases List.mem_cons.mp hname with rfl | hname
        · simpa using hseen
        · exact fun h => hnew name hname (List.mem_cons_of_mem _ h)
    · rename_i hkind
      rw [accessorNames_cons_of_ne hkind]
      exact ih seen

/-! ## The members that are read -/

theorem mem_accessorNames_iff {siblings : List ParseTree} {n : Nat} {name : String} :
    name ∈ accessorNames ((List.range n).filterMap (memberAt? siblings)) ↔
      ∃ i < n, ∃ node, MemberAt siblings i .property node ∧ node.text = name := by
  simp only [memberAt_iff, accessorNames, List.mem_map, List.mem_filter, List.mem_filterMap,
    List.mem_range, decide_eq_true_eq]
  constructor
  · rintro ⟨d, ⟨⟨i, hi, hd⟩, hkind⟩, hname⟩
    exact ⟨i, hi, d, hd, hkind, hname⟩
  · rintro ⟨i, hi, d, hd, hkind, hname⟩
    exact ⟨d, ⟨⟨i, hi, hd⟩, hkind⟩, hname⟩

theorem KeptAt.isSome {siblings : List ParseTree} {i : Nat} (h : KeptAt siblings i) :
    (memberAt? siblings i).isSome := by
  obtain ⟨kind, name, hmember, -⟩ := h
  obtain ⟨d, hd, -⟩ := memberAt_iff.mp ⟨name, hmember, rfl⟩
  rw [hd, Option.isSome_some]

theorem keptAt_iff {siblings : List ParseTree} {i : Nat} {d : Declaration}
    (h : memberAt? siblings i = some d) :
    KeptAt siblings i ↔ ¬(d.kind = .property ∧
      d.name ∈ accessorNames ((List.range i).filterMap (memberAt? siblings))) := by
  rw [mem_accessorNames_iff]
  constructor
  · rintro ⟨kind, name, hmember, hfirst⟩ ⟨hkind, j, hj, other, hother, htext⟩
    obtain ⟨e, he, hekind, hename⟩ := memberAt_iff.mp ⟨name, hmember, rfl⟩
    obtain rfl : d = e := Option.some.inj (h.symm.trans he)
    exact hfirst (hekind ▸ hkind) j hj other hother (htext.trans hename)
  · intro hnone
    obtain ⟨name, hmember, hname⟩ := memberAt_iff.mpr ⟨d, h, rfl, rfl⟩
    refine ⟨d.kind, name, hmember, fun hkind j hj other hother htext => ?_⟩
    exact hnone ⟨hkind, j, hj, other, hother, htext.trans hname⟩

/-- The members read from a body, with the places they have in it. -/
structure ReadAt (siblings : List ParseTree) (places : List Nat) (members : List Declaration) :
    Prop where
  increasing : places.Pairwise (· < ·)
  mem_iff : ∀ i, i ∈ places ↔ KeptAt siblings i
  lowered : List.Forall₂ (LoweredAt siblings) places members

/-- The same for the part of a body before a place. -/
theorem exists_places (siblings : List ParseTree) (n : Nat) :
    ∃ places : List Nat, places.Sublist (List.range n) ∧
      (∀ i, i ∈ places ↔ i < n ∧ KeptAt siblings i) ∧
      List.Forall₂ (LoweredAt siblings) places
        (pairAccessors [] ((List.range n).filterMap (memberAt? siblings))) := by
  induction n with
  | zero => exact ⟨[], .slnil, by simp, .nil⟩
  | succ n ih =>
    obtain ⟨places, hsublist, hmem, hlowered⟩ := ih
    have hskip : ¬KeptAt siblings n → ∀ i, i ∈ places ↔ i < n + 1 ∧ KeptAt siblings i := by
      intro hn i
      rw [hmem, Nat.lt_succ_iff_lt_or_eq, or_and_right, or_iff_left]
      rintro ⟨rfl, hi⟩
      exact hn hi
    rw [List.range_succ, List.filterMap_append]
    cases hd : memberAt? siblings n with
    | none =>
      have hn : ¬KeptAt siblings n := fun h => by simpa [hd] using h.isSome
      rw [List.filterMap_cons_none hd, List.filterMap_nil, List.append_nil]
      exact ⟨places, hsublist.trans (List.sublist_append_left _ _), hskip hn, hlowered⟩
    | some d =>
      have hkept := keptAt_iff hd
      rw [List.filterMap_cons_some hd, List.filterMap_nil, pairAccessors_append_singleton]
      simp only [List.not_mem_nil, false_or]
      split
      · rename_i hpaired
        have hn : ¬KeptAt siblings n := fun h => hkept.mp h hpaired
        rw [List.append_nil]
        exact ⟨places, hsublist.trans (List.sublist_append_left _ _), hskip hn, hlowered⟩
      · rename_i hpaired
        refine ⟨places ++ [n], hsublist.append_right [n], fun i => ?_, ?_⟩
        · rw [List.mem_append, List.mem_singleton, hmem, Nat.lt_succ_iff_lt_or_eq, or_and_right]
          refine or_congr_right ⟨?_, And.left⟩
          rintro rfl
          exact ⟨rfl, hkept.mpr hpaired⟩
        · exact List.rel_append hlowered (.cons (memberAt?_eq_some_iff.mp hd) .nil)

theorem exists_readAt (siblings : List ParseTree) :
    ∃ places, ReadAt siblings places (pairAccessors [] (membersFrom [] siblings)) := by
  obtain ⟨places, hsublist, hmem, hlowered⟩ := exists_places siblings siblings.length
  rw [← membersFrom_eq_filterMap] at hlowered
  refine ⟨places, List.pairwise_lt_range.sublist hsublist, fun i => ?_, hlowered⟩
  rw [hmem, and_iff_right_iff_imp]
  rintro ⟨_, _, ⟨t, ht, -⟩, -⟩
  exact (List.getElem?_eq_some_iff.mp ht).1

theorem class?_eq (shown : Accessibility) (outer : List TypeName) {t name : ParseTree}
    (hname : t.child? "name" = some name) :
    ∃ header, class? shown outer t = some (.node header
      (typeParameters t ++ pairAccessors [] (membersFrom [] (bodyNodes t)))) := by
  have hbody : ((t.child? "body").elim [] fun body => membersFrom [] body.namedChildren) =
      membersFrom [] (bodyNodes t) := by
    unfold bodyNodes
    cases t.child? "body" <;> rfl
  simp [class?, childText?, hname, hbody]

theorem accessorNames_typeParameters_append (t : ParseTree) (ds : List Declaration) :
    accessorNames (typeParameters t ++ ds) = accessorNames ds := by
  have hnone : ((typeParameters t).filter fun d => d.kind = .property) = [] := by
    rw [List.filter_eq_nil_iff]
    intro p hp
    unfold typeParameters at hp
    cases hlist : t.child? "type_parameters" with
    | none => simp [hlist] at hp
    | some list =>
      rw [hlist] at hp
      obtain ⟨entry, -, hentry⟩ := List.mem_filterMap.mp hp
      unfold typeParameter? at hentry
      split at hentry
      · obtain ⟨name, -, rfl⟩ := Option.map_eq_some_iff.mp hentry
        simp [Declaration.typeParameter]
      · cases hentry
  rw [accessorNames, List.filter_append, hnone, List.nil_append, accessorNames]

/-- A class with a name is read, and its type parameters are followed by the members at the places
that are kept, in order, each with the decorators directly before it and then its own. So there is
one property of a name at most, no method and no field is left out, and no decorator stands in the
runs before two members. -/
theorem class_members (shown : Accessibility) (outer : List TypeName) {t name : ParseTree}
    (hname : t.child? "name" = some name) :
    ∃ d places members, class? shown outer t = some d ∧
      d.children = typeParameters t ++ members ∧
      ReadAt (bodyNodes t) places members ∧
      (accessorNames d.children).Nodup ∧
      (∀ i kind name, MemberAt (bodyNodes t) i kind name → kind ≠ .property → i ∈ places) ∧
      ∀ i j k kind kind' name name', MemberAt (bodyNodes t) i kind name →
        MemberAt (bodyNodes t) j kind' name' → RunsTo (bodyNodes t) k i →
        RunsTo (bodyNodes t) k j → i = j := by
  obtain ⟨header, hclass⟩ := class?_eq shown outer hname
  obtain ⟨places, hread⟩ := exists_readAt (bodyNodes t)
  refine ⟨_, places, _, hclass, rfl, hread, ?_, ?_, ?_⟩
  · rw [Declaration.children_node, accessorNames_typeParameters_append]
    exact (nodup_accessorNames_pairAccessors _ _).1
  · intro i kind name hmember hkind
    exact (hread.mem_iff i).mpr ⟨kind, name, hmember, fun h => absurd h hkind⟩
  · intro i j k kind kind' name name' hi hj
    exact eq_of_runsTo hi hj

/-! ## A class with an accessor and a method of one name -/

open Source (token)

def decoratorNode (name : String) : ParseTree :=
  .node ⟨"decorator", true, "", "@" ++ name⟩ [
    token "@" false "" "@",
    token "identifier" true "" name]

def levelName : ParseTree := token "property_identifier" true "name" "level"

/-- A method of the name `level`, with what stands before the name. -/
def levelMethod (text : String) (before : List ParseTree) : ParseTree :=
  .node ⟨"method_definition", true, "", text⟩
    (before ++ [
      levelName,
      token "formal_parameters" true "parameters" "()",
      token "statement_block" true "body" "\x7b\x7d"])

def gaugeName : ParseTree := token "type_identifier" true "name" "Gauge"

def gaugeText : String :=
  "\x7b @Watch get level() \x7b\x7d @Log set level() \x7b\x7d level() \x7b\x7d \x7d"

/-- A getter, a setter and a method have one name, and the first two are decorated. -/
def gaugeClass : ParseTree :=
  .node ⟨"class_declaration", true, "", "class Gauge " ++ gaugeText⟩ [
    token "class" false "" "class",
    gaugeName,
    .node ⟨"class_body", true, "body", gaugeText⟩ [
      token "\x7b" false "" "\x7b",
      decoratorNode "Watch",
      levelMethod "get level() \x7b\x7d" [token "get" false "" "get"],
      decoratorNode "Log",
      levelMethod "set level() \x7b\x7d" [token "set" false "" "set"],
      levelMethod "level() \x7b\x7d" [],
      token "\x7d" false "" "\x7d"]]

theorem kind_levelMethod (text : String) (before : List ParseTree) :
    (levelMethod text before).kind ∈ methodKinds := List.mem_cons_self

/-- The getter and the method are read, and the setter is paired with the getter. -/
theorem gauge_members :
    gaugeClass.child? "name" = some gaugeName ∧
      ∃ d places members, class? .public [] gaugeClass = some d ∧
        d.children = typeParameters gaugeClass ++ members ∧
        ReadAt (bodyNodes gaugeClass) places members ∧ 1 ∈ places ∧ 3 ∉ places ∧ 4 ∈ places := by
  have hname : gaugeClass.child? "name" = some gaugeName := by cbv
  have hgetter : MemberAt (bodyNodes gaugeClass) 1 .property levelName :=
    ⟨levelMethod "get level() \x7b\x7d" [token "get" false "" "get"], by cbv,
      .accessor (kind_levelMethod _ _) ⟨_, List.mem_cons_self, .inl rfl⟩ (by cbv)⟩
  have hsetter : MemberAt (bodyNodes gaugeClass) 3 .property levelName :=
    ⟨levelMethod "set level() \x7b\x7d" [token "set" false "" "set"], by cbv,
      .accessor (kind_levelMethod _ _) ⟨_, List.mem_cons_self, .inr rfl⟩ (by cbv)⟩
  have hmethod : MemberAt (bodyNodes gaugeClass) 4 .method levelName :=
    ⟨levelMethod "level() \x7b\x7d" [], by cbv, .method (kind_levelMethod _ _)
      (by simp [levelMethod, levelName, token, ParseTree.kind]) (by cbv)⟩
  obtain ⟨d, places, members, hclass, hchildren, hread, -, hkept, -⟩ :=
    class_members .public [] hname
  refine ⟨hname, d, places, members, hclass, hchildren, hread, ?_, ?_,
    hkept 4 _ _ hmethod (by decide)⟩
  · refine (hread.mem_iff 1).mpr ⟨_, _, hgetter, fun _ j hj other hother => ?_⟩
    obtain rfl : j = 0 := by omega
    exact absurd hother (not_memberAt_of_decoratorAt (by decide))
  · intro h
    obtain ⟨kind, name, hmember, hfirst⟩ := (hread.mem_iff 3).mp h
    obtain ⟨rfl, rfl⟩ := hsetter.unique hmember
    exact hfirst rfl 1 (by decide) levelName hgetter rfl

end DeclTree.TypeScript

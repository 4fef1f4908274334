import DeclTree.Proofs.Occurrences
import DeclTree.Query.Run
import Mathlib.Data.List.Chain
import Mathlib.Data.List.TakeWhile

/-!
# Queries report admissible chains

The walk carries two running texts, stops at levels that are too deep for the query and looks only
at one declaration and its parent at a time. What it reports can be said without any of this. An
occurrence is reported when every declaration on the way to it may stand below the one before, is
not special and passes the test for its kind, and when the last one meets the conditions of the
query in the namespace spelled out by the leading namespaces among its ancestors.

Levels do not occur in this description. `findUnpruned` is the walk without the test of levels, and
it finds the same: a declaration deeper than all kinds asked for has nothing but deeper ones below.
-/

namespace DeclTree

namespace Level

theorem le_trans {a b c : Level} (hab : a ≤ b) (hbc : b ≤ c) : a ≤ c := Nat.le_trans hab hbc

theorem le_deeper_left (a b : Level) : a ≤ a.deeper b := by
  unfold deeper
  split
  · assumption
  · exact Nat.le_refl a.rank

theorem le_deeper_right (a b : Level) : b ≤ a.deeper b := by
  unfold deeper
  split
  · exact Nat.le_refl b.rank
  · exact Nat.le_of_lt (Nat.lt_of_not_le ‹_›)

end Level

namespace Kind

theorem level_le_reach (kind : Kind) : kind.level ≤ kind.reach := by cases kind <;> decide

/-- Going down a tree never leads back to kinds that are reached earlier. -/
theorem reach_le_reach_of_mayContain {parent child : Kind} (h : parent.mayContain child = true) :
    parent.reach ≤ child.reach := by
  revert h
  cases parent <;> cases child <;> decide

theorem eq_namespace_of_mayContain {parent : Kind} (h : parent.mayContain .namespace = true) :
    parent = .namespace := by
  revert h
  cases parent <;> decide

end Kind

namespace KindSet

/-- Folding over kinds goes down at least to where it starts and to what each kind needs. -/
theorem foldl_deepest (kinds : List Kind) (start : Option Level) (level : Level)
    (h : (∃ l, start = some l ∧ level ≤ l) ∨ ∃ kind ∈ kinds, level = kind.reach) :
    ∃ deepest, kinds.foldl (fun deepest kind => some (match deepest with
      | none => kind.reach
      | some l => l.deeper kind.reach)) start = some deepest ∧ level ≤ deepest := by
  induction kinds generalizing start with
  | nil =>
    rcases h with ⟨l, rfl, hl⟩ | ⟨kind, hmem, -⟩
    · exact ⟨l, rfl, hl⟩
    · simp at hmem
  | cons kind kinds ih =>
    rw [List.foldl_cons]
    apply ih
    rcases h with ⟨l, rfl, hl⟩ | ⟨k, hmem, rfl⟩
    · exact .inl ⟨_, rfl, Level.le_trans hl (Level.le_deeper_left l kind.reach)⟩
    · rcases List.mem_cons.mp hmem with rfl | hmem
      · left
        cases start with
        | none => exact ⟨_, rfl, Nat.le_refl k.reach.rank⟩
        | some l => exact ⟨_, rfl, Level.le_deeper_right l k.reach⟩
      · exact .inr ⟨k, hmem, rfl⟩

/-- The deepest level of a set is deep enough for every kind in it. -/
theorem reach_le_maxLevel {set : KindSet} {kind : Kind} (h : set.contains kind = true) :
    ∃ deepest, set.maxLevel = some deepest ∧ kind.reach ≤ deepest :=
  foldl_deepest set.toList none kind.reach (.inr ⟨kind, mem_toList.mpr h, rfl⟩)

end KindSet

/-! ## The walk without levels -/

namespace Query

/-- Whether the walk goes into a declaration below one of the given kind, levels left aside. -/
def admits (q : Query) (parent : Kind) (d : Declaration) : Bool :=
  parent.mayContain d.kind && !d.isSpecial && q.passesVisit d

mutual

/-- What is found in a declaration when levels are not looked at. -/
def findUnpruned (q : Query) (parent : Kind) (scope : Scope) : Declaration → List Entity
  | .node header children =>
    let d := .node header children
    if q.admits parent d then
      q.report scope d ++ q.findAllUnpruned header.kind (scope.enter d) children
    else []

def findAllUnpruned (q : Query) (parent : Kind) (scope : Scope) : List Declaration → List Entity
  | [] => []
  | d :: ds => q.findUnpruned parent scope d ++ q.findAllUnpruned parent scope ds

end

def runUnpruned (q : Query) (root : Declaration) : List Entity :=
  q.findAllUnpruned root.kind {} root.children

theorem findAll_eq_flatMap (q : Query) (parent : Kind) (scope : Scope) (ds : List Declaration) :
    q.findAll parent scope ds = ds.flatMap (q.find parent scope) := by
  induction ds with
  | nil => simp
  | cons d ds ih => simp [ih]

theorem findAllUnpruned_eq_flatMap (q : Query) (parent : Kind) (scope : Scope)
    (ds : List Declaration) :
    q.findAllUnpruned parent scope ds = ds.flatMap (q.findUnpruned parent scope) := by
  induction ds with
  | nil => simp [findAllUnpruned]
  | cons d ds ih => simp [findAllUnpruned, ih]

theorem enters_eq (q : Query) (parent : Kind) (d : Declaration) :
    q.enters parent d = (q.admits parent d &&
      q.kinds.maxLevel.any fun deepest => decide (d.kind.level ≤ deepest)) := by
  simp only [enters, admits, visitable, Bool.and_assoc]

/-- No kind asked for is reached as late as this one. -/
def TooDeep (q : Query) (kind : Kind) : Prop :=
  ∀ k, q.kinds.contains k = true → ¬ kind.reach ≤ k.reach

/-- A declaration that the walk leaves out for its level is deeper than everything asked for. -/
theorem tooDeep_of_level {q : Query} {kind : Kind}
    (h : (q.kinds.maxLevel.any fun deepest => decide (kind.level ≤ deepest)) = false) :
    q.TooDeep kind := by
  intro k hk hle
  obtain ⟨deepest, hmax, hreach⟩ := KindSet.reach_le_maxLevel hk
  have hlevel : kind.level ≤ deepest :=
    Level.le_trans kind.level_le_reach (Level.le_trans hle hreach)
  simp [hmax, hlevel] at h

theorem TooDeep.below {q : Query} {parent child : Kind} (h : q.TooDeep parent)
    (hchild : parent.mayContain child = true) : q.TooDeep child := by
  intro k hk hle
  exact h k hk (Level.le_trans (Kind.reach_le_reach_of_mayContain hchild) hle)

theorem TooDeep.report {q : Query} {d : Declaration} (h : q.TooDeep d.kind) (scope : Scope) :
    q.report scope d = [] := by
  have hkind : q.kinds.contains d.kind = false := by
    rw [← Bool.not_eq_true]
    intro hc
    exact h d.kind hc (Nat.le_refl d.kind.reach.rank)
  simp [Query.report, includes, hkind]

/-- Below a declaration that is too deep there is nothing to find, however far the walk goes. -/
theorem TooDeep.findUnpruned {q : Query} {d : Declaration} (h : q.TooDeep d.kind) (parent : Kind)
    (scope : Scope) : q.findUnpruned parent scope d = [] := by
  induction d using Declaration.induction generalizing parent scope with
  | node header children ih =>
    have hchildren : children.flatMap
        (q.findUnpruned header.kind (scope.enter (.node header children))) = [] := by
      rw [List.flatMap_eq_nil_iff]
      intro c hc
      by_cases hmay : header.kind.mayContain c.kind = true
      · exact ih c hc (h.below hmay) _ _
      · cases c
        simp_all [Query.findUnpruned, admits]
    simp only [Query.findUnpruned, h.report, findAllUnpruned_eq_flatMap, hchildren,
      List.append_nil, ite_self]

/-- Testing levels leaves nothing out. -/
theorem find_eq_findUnpruned (q : Query) (parent : Kind) (scope : Scope) (d : Declaration) :
    q.find parent scope d = q.findUnpruned parent scope d := by
  induction d using Declaration.induction generalizing parent scope with
  | node header children ih =>
    have hchildren : ∀ scope, q.findAll header.kind scope children =
        q.findAllUnpruned header.kind scope children := by
      intro scope
      rw [findAll_eq_flatMap, findAllUnpruned_eq_flatMap]
      exact List.flatMap_congr fun c hc => ih c hc header.kind scope
    have henters := q.enters_eq parent (.node header children)
    cases hlevel : q.kinds.maxLevel.any fun deepest =>
        decide ((Declaration.node header children).kind.level ≤ deepest) with
    | true =>
      rw [hlevel, Bool.and_true] at henters
      simp only [find, findUnpruned, henters, hchildren]
    | false =>
      rw [hlevel, Bool.and_false] at henters
      rw [TooDeep.findUnpruned (tooDeep_of_level hlevel)]
      simp [find, henters]

theorem run_eq_runUnpruned (q : Query) (root : Declaration) : q.run root = q.runUnpruned root := by
  rw [run, runUnpruned, findAll_eq_flatMap, findAllUnpruned_eq_flatMap]
  exact List.flatMap_congr fun d _ => q.find_eq_findUnpruned root.kind {} d

end Query

/-! ## Qualified names -/

namespace Declaration

/-- The names of declarations one inside the other, as they stand in qualified names and with dots
between them; empty names at the front leave no dot. -/
def qualifiedName (ds : List Declaration) : String :=
  ".".intercalate ((ds.map displayName).dropWhile String.isEmpty)

@[simp] theorem qualifiedName_nil : qualifiedName [] = "" := rfl

theorem qualifiedName_concat (ds : List Declaration) (d : Declaration) :
    qualifiedName (ds ++ [d]) = qualify (qualifiedName ds) d.displayName := by
  unfold qualifiedName
  rw [List.map_append, List.dropWhile_append, List.map_singleton]
  cases hnames : (ds.map displayName).dropWhile String.isEmpty with
  | nil =>
    by_cases hd : d.displayName = ""
    · simp [qualify, hd]
    · simp [qualify, hd]
  | cons name names =>
    have hname : name ≠ "" := by
      intro he
      have := List.head_dropWhile_not String.isEmpty (l := ds.map displayName) (by simp [hnames])
      simp [hnames, he] at this
    have hjoin : ".".intercalate (name :: names) ≠ "" := by
      cases names <;> simp [hname]
    rw [if_neg (by simp), String.intercalate_append_of_ne_nil (by simp) (by simp), qualify,
      if_neg (by simpa [String.isEmpty_iff] using hjoin), String.intercalate_singleton]

end Declaration

namespace Scope

/-- Where the children of the last of some declarations sit that lie one inside the other. -/
def through (s : Scope) (ds : List Declaration) : Scope := ds.foldl enter s

theorem path_through (ds : List Declaration) :
    (through {} ds).path = Declaration.qualifiedName ds := by
  induction ds using List.reverseRecOn with
  | nil => rfl
  | append_singleton ds d ih =>
    rw [through, List.foldl_concat, Declaration.qualifiedName_concat, ← ih]
    rfl

/-- Above a namespace there are only namespaces. -/
theorem namespaces_of_chain {ds : List Declaration} {d : Declaration}
    (h : (ds ++ [d]).IsChain fun a b => a.kind.mayContain b.kind = true)
    (hd : d.kind = .namespace) : ∀ e ∈ ds ++ [d], e.kind = .namespace := by
  induction ds with
  | nil => simpa using hd
  | cons a ds ih =>
    rw [List.cons_append, List.isChain_cons] at h
    have hrest := ih h.2
    obtain ⟨b, bs, hb⟩ := List.exists_cons_of_ne_nil (show ds ++ [d] ≠ [] by simp)
    rw [hb] at h hrest
    have ha : a.kind = .namespace := by
      apply Kind.eq_namespace_of_mayContain
      rw [← hrest b (by simp)]
      exact h.1 b (by simp)
    rw [List.cons_append, hb]
    simpa [ha] using hrest

/-- The running namespace is the qualified name of the leading namespaces. -/
theorem space_through {ds : List Declaration}
    (h : ds.IsChain fun a b => a.kind.mayContain b.kind = true) :
    (through {} ds).space =
      Declaration.qualifiedName (ds.takeWhile fun d => d.kind = .namespace) := by
  induction ds using List.reverseRecOn with
  | nil => rfl
  | append_singleton ds d ih =>
    have hpath : (through {} (ds ++ [d])).path = _ := path_through (ds ++ [d])
    rw [through, List.foldl_concat] at hpath ⊢
    by_cases hd : d.kind = .namespace
    · have hall := namespaces_of_chain h hd
      have htake : (ds ++ [d]).takeWhile (fun d => d.kind = .namespace) = ds ++ [d] :=
        List.takeWhile_eq_self_iff.mpr (by simpa using hall)
      rw [htake, ← hpath]
      simp [enter, hd]
    · have htake : (ds ++ [d]).takeWhile (fun d => d.kind = .namespace) =
          ds.takeWhile fun d => d.kind = .namespace := by
        rw [List.takeWhile_append]
        split
        · rename_i hlength
          simpa [hd] using (List.takeWhile_sublist _).eq_of_length hlength |>.symm
        · rfl
      rw [htake, ← ih h.left_of_append]
      simp [enter, hd, through]

end Scope

/-! ## Admissible chains -/

namespace Occurrence

def spaces (o : Occurrence) : List Declaration :=
  o.ancestors.takeWhile fun d => d.kind = .namespace

def entity (o : Occurrence) : Entity := ⟨o.target.name, Declaration.qualifiedName o.path⟩

end Occurrence

namespace Query

/-- Declarations one inside the other, the first below the given one: each may stand where it does,
is not special and passes the test for its kind. -/
def AdmitsAll (q : Query) (parent : Declaration) (ds : List Declaration) : Prop :=
  ((parent :: ds).IsChain fun a b => a.kind.mayContain b.kind = true) ∧
    ∀ d ∈ ds, d.isSpecial = false ∧ q.passesVisit d = true

/-- The query reports this occurrence below a root: the way to it is admissible, and it meets the
conditions in the namespace of its leading ancestors. -/
def Reports (q : Query) (root : Declaration) (o : Occurrence) : Prop :=
  q.AdmitsAll root o.path ∧ q.includes o.target (Declaration.qualifiedName o.spaces) = true

instance (q : Query) (parent : Declaration) (ds : List Declaration) :
    Decidable (q.AdmitsAll parent ds) :=
  inferInstanceAs (Decidable (_ ∧ _))

instance (q : Query) (root : Declaration) (o : Occurrence) : Decidable (q.Reports root o) :=
  inferInstanceAs (Decidable (_ ∧ _))

@[simp] theorem admitsAll_nil (q : Query) (parent : Declaration) : q.AdmitsAll parent [] := by
  simp [AdmitsAll]

@[simp] theorem admitsAll_cons (q : Query) (parent d : Declaration) (ds : List Declaration) :
    q.AdmitsAll parent (d :: ds) ↔ q.admits parent.kind d = true ∧ q.AdmitsAll d ds := by
  simp only [AdmitsAll, admits, List.isChain_cons_cons, List.mem_cons, forall_eq_or_imp,
    Bool.and_eq_true, Bool.not_eq_true']
  tauto

/-- What the walk reports once it is at a declaration by way of others, starting below a kind and
in a scope. -/
def reached (q : Query) (parent : Kind) (scope : Scope) :
    List Declaration → Declaration → Option Entity
  | [], d =>
    if q.admits parent d && q.includes d scope.space then some ⟨d.name, scope.fullName d⟩ else none
  | a :: as, d => if q.admits parent a then q.reached a.kind (scope.enter a) as d else none

theorem reached_eq (q : Query) (parent : Declaration) (scope : Scope) (as : List Declaration)
    (d : Declaration) :
    q.reached parent.kind scope as d =
      if q.AdmitsAll parent (as ++ [d]) ∧ q.includes d (scope.through as).space = true then
        some ⟨d.name, (scope.through as).fullName d⟩
      else none := by
  induction as generalizing parent scope with
  | nil => simp [reached, Scope.through]
  | cons a as ih =>
    rw [reached, ih a (scope.enter a), List.cons_append]
    by_cases ha : q.admits parent.kind a = true
    · rw [if_pos ha]
      exact if_congr (by simp [ha, Scope.through]) rfl rfl
    · simp [ha]

/-- From the root of a tree the running texts are those of the description. -/
theorem reached_root (q : Query) (root : Declaration) (o : Occurrence) :
    q.reached root.kind {} o.ancestors o.target =
      if q.Reports root o then some o.entity else none := by
  rw [reached_eq]
  by_cases h : q.AdmitsAll root o.path
  · have hchain := h.1.tail.left_of_append
    rw [Scope.space_through hchain, Scope.fullName, Scope.path_through,
      ← Declaration.qualifiedName_concat]
    rfl
  · rw [if_neg fun hc => h hc.1, if_neg fun hc => h hc.1]

/-- Walking through siblings reaches what occurs in them, if walking through each of them does. -/
theorem findAllUnpruned_eq_filterMap {q : Query} {parent : Kind} {scope : Scope}
    {ds : List Declaration} (i : Nat)
    (h : ∀ d ∈ ds, ∀ i, q.findUnpruned parent scope d = (Declaration.occurrencesAt i d).filterMap
      fun o => q.reached parent scope o.ancestors o.target) :
    q.findAllUnpruned parent scope ds = (Declaration.occurrencesFrom i ds).filterMap
      fun o => q.reached parent scope o.ancestors o.target := by
  induction ds generalizing i with
  | nil => simp [findAllUnpruned]
  | cons d ds ih =>
    rw [findAllUnpruned, Declaration.occurrencesFrom_cons, List.filterMap_append,
      h d (by simp) i, ih (i + 1) fun e he => h e (by simp [he])]

theorem findUnpruned_eq_filterMap (q : Query) (parent : Kind) (scope : Scope) (d : Declaration)
    (i : Nat) :
    q.findUnpruned parent scope d = (Declaration.occurrencesAt i d).filterMap
      fun o => q.reached parent scope o.ancestors o.target := by
  induction d using Declaration.induction generalizing parent scope i with
  | node header children ih =>
    have hchildren : ∀ scope, q.findAllUnpruned header.kind scope children =
        (Declaration.node header children).occurrences.filterMap
          fun o => q.reached header.kind scope o.ancestors o.target :=
      fun scope => findAllUnpruned_eq_filterMap 0 fun c hc i => ih c hc header.kind scope i
    rw [findUnpruned, Declaration.occurrencesAt_eq, hchildren]
    by_cases ha : q.admits parent (.node header children) = true
    · by_cases hi : q.includes (.node header children) scope.space = true
      · simp [ha, hi, reached, report, Occurrence.under, List.filterMap_map, Function.comp_def]
      · simp [ha, hi, reached, report, Occurrence.under, List.filterMap_map, Function.comp_def]
    · simp [ha, reached, Occurrence.under, List.filterMap_map, Function.comp_def]

theorem runUnpruned_eq_map (q : Query) (root : Declaration) :
    q.runUnpruned root =
      (root.occurrences.filter fun o => q.Reports root o).map Occurrence.entity := by
  rw [runUnpruned, findAllUnpruned_eq_filterMap 0 fun d _ i =>
    q.findUnpruned_eq_filterMap root.kind {} d i]
  simp only [reached_root]
  rw [← List.filterMap_eq_map, List.filterMap_filter]
  simp [Declaration.occurrences]

/-- A run reports in pre-order one entity for each admissible chain from the root and nothing else,
and testing levels on the way changes nothing. -/
theorem run_reports_admissible_chains (q : Query) (root : Declaration) :
    (∃ found : List Occurrence,
      (found.Pairwise fun o p => o.place < p.place) ∧
      (∀ o, o ∈ found ↔ o.Below root ∧ q.Reports root o) ∧
      q.run root = found.map Occurrence.entity) ∧
    q.run root = q.runUnpruned root := by
  refine ⟨⟨root.occurrences.filter fun o => q.Reports root o, ?_, ?_, ?_⟩,
    q.run_eq_runUnpruned root⟩
  · exact root.pairwise_occurrences.filter _
  · intro o
    rw [List.mem_filter, Declaration.mem_occurrences, decide_eq_true_iff]
  · rw [run_eq_runUnpruned, runUnpruned_eq_map]

end Query

end DeclTree

import DeclTree.Proofs.Inheritance.Closing
import DeclTree.Proofs.Source.Layers
import DeclTree.Proofs.Source.RustComments

/-!
# What `impl` blocks hand over

The blocks of a list of items are handed over one after another, each to the last type of its name
among what the blocks before it have left. Since a type keeps its kind and name whatever it is
given, every block finds the type that it would find among the items as they were read, so a type
gets all that the blocks of its name hold, in their order, and nothing else changes.
-/

namespace DeclTree

namespace TypeName

/-- The types in a list that have none of the given canonical names, each name once. -/
def missing (names : List String) : List TypeName → List TypeName
  | [] => []
  | t :: ts =>
    if t.canonical ∈ names then missing names ts else t :: missing (names ++ [t.canonical]) ts

theorem missing_append (names : List String) (ts us : List TypeName) :
    missing names (ts ++ us) =
      missing names ts ++ missing (names ++ canonicals (missing names ts)) us := by
  induction ts generalizing names with
  | nil => simp [missing]
  | cons t ts ih =>
    rw [List.cons_append, missing, missing]
    split
    · exact ih names
    · rw [ih, List.cons_append, canonicals_cons, List.append_assoc, List.singleton_append]

end TypeName

namespace Rust

open ParseTree

/-! ## Blocks -/

/-- The path of a type ends in a name. References, tuples and other types are not given by a
path. -/
inductive EndsIn : ParseTree → String → Prop
  | identifier {t : ParseTree} : t.kind = "type_identifier" → EndsIn t t.text
  | applied {t head : ParseTree} {name : String} : t.kind = "generic_type" →
      t.child? "type" = some head → EndsIn head name → EndsIn t name
  | path {t : ParseTree} {name : String} : t.kind = "scoped_type_identifier" →
      t.childText? "name" = some name → EndsIn t name

/-- A block is for the types of a name. -/
def IsFor (name : String) (block : ParseTree) : Prop :=
  ∃ self, block.child? "type" = some self ∧ EndsIn self name

/-- The trait that a block names, if it can be read as a type. -/
def blockTrait? (block : ParseTree) : Option TypeName := (block.child? "trait").bind typeName?

/-- The members in the body of a block. -/
def blockMembers (block : ParseTree) : List Declaration :=
  (block.child? "body").elim [] (members ((blockTrait? block).map fun _ => .public))

theorem selfName?_eq_some_iff {t : ParseTree} {name : String} :
    selfName? t = some name ↔ EndsIn t name := by
  constructor
  · intro h
    induction t using ParseTree.induction with
    | node label children ih =>
      rw [selfName?_eq] at h
      split at h
      · rename_i hkind
        cases h
        exact .identifier hkind
      · rename_i hkind
        cases hhead : (node label children).child? "type" with
        | none => simp [hhead] at h
        | some head =>
          rw [hhead] at h
          exact .applied hkind hhead (ih head (List.mem_of_find?_eq_some hhead) h)
      · rename_i hkind
        exact .path hkind h
      · cases h
  · intro h
    induction h with
    | identifier hkind => simp [selfName?_eq, hkind]
    | @applied t head name hkind hhead _ ih =>
      have hself : selfName? t = selfName? head := by simp [selfName?_eq t, hkind, hhead]
      rw [hself, ih]
    | path hkind hname => simp [selfName?_eq, hkind, hname]

theorem selfNameIn?_eq_some_iff {block : ParseTree} {name : String} :
    selfNameIn? block.children = some name ↔ IsFor name block := by
  rw [selfNameIn?_eq, IsFor, ParseTree.child?]
  cases block.children.find? fun c => c.field == "type" with
  | none => simp
  | some self => simp [selfName?_eq_some_iff]

instance (name : String) (block : ParseTree) : Decidable (IsFor name block) :=
  decidable_of_iff _ selfNameIn?_eq_some_iff

/-! ## What a type receives -/

/-- A type with what blocks add to it: their members behind its children, and their traits behind
its interfaces unless they are there. -/
def receive (blocks : List ParseTree) (d : Declaration) : Declaration :=
  .node
    { d.header with
      interfaces := d.header.interfaces ++
        TypeName.missing (TypeName.canonicals d.header.interfaces) (blocks.filterMap blockTrait?) }
    (d.children ++ blocks.flatMap blockMembers)

theorem foldl_addInterface_eq (types : List TypeName) (h : Header) :
    types.foldl addInterface h =
      { h with
        interfaces := h.interfaces ++
          TypeName.missing (TypeName.canonicals h.interfaces) types } := by
  induction types generalizing h with
  | nil => simp [TypeName.missing]
  | cons t types ih =>
    rw [List.foldl_cons, ih, TypeName.missing, addInterface]
    by_cases ht : t.canonical ∈ TypeName.canonicals h.interfaces
    · simp [ht, TypeName.listed_iff]
    · simp [ht, TypeName.listed_iff]

theorem receive_nil (d : Declaration) : receive [] d = d := by
  cases d
  simp [receive, TypeName.missing]

@[simp] theorem kind_receive (blocks : List ParseTree) (d : Declaration) :
    (receive blocks d).kind = d.kind := rfl

@[simp] theorem name_receive (blocks : List ParseTree) (d : Declaration) :
    (receive blocks d).name = d.name := rfl

theorem extend_receive (block : ParseTree) (blocks : List ParseTree) (d : Declaration) :
    extend block (receive blocks d) = receive (blocks ++ [block]) d := by
  have htrait : [block].filterMap blockTrait? = (blockTrait? block).toList := by
    cases h : blockTrait? block <;> simp [h]
  have hextend : extend block (receive blocks d) =
      ((receive blocks d).mapHeader fun h =>
        (blockTrait? block).toList.foldl addInterface h).addChildren (blockMembers block) := rfl
  rw [hextend, receive, receive, Declaration.mapHeader, Declaration.addChildren,
    foldl_addInterface_eq, List.filterMap_append, List.flatMap_append, TypeName.missing_append,
    htrait]
  simp

/-! ## Handing over -/

/-- A declaration with others behind it is a named type, and none of them is one of its name. -/
def IsLast (d : Declaration) (behind : List Declaration) : Prop :=
  d.kind.isNamedType = true ∧ ∀ e ∈ behind, e.kind.isNamedType = true → e.name ≠ d.name

instance (d : Declaration) (behind : List Declaration) : Decidable (IsLast d behind) :=
  inferInstanceAs (Decidable (_ ∧ _))

/-- Each last type of a name gets what the blocks for it hold. -/
def handOver (blocks : List ParseTree) : List Declaration → List Declaration
  | [] => []
  | d :: ds =>
    (if IsLast d ds then receive (blocks.filter fun b => IsFor d.name b) d else d) ::
      handOver blocks ds

/-- A block is for one of the named types in a list. -/
def HasTarget (ds : List Declaration) (block : ParseTree) : Prop :=
  ∃ d ∈ ds, d.kind.isNamedType = true ∧ IsFor d.name block

instance (ds : List Declaration) (block : ParseTree) : Decidable (HasTarget ds block) :=
  inferInstanceAs (Decidable (∃ d ∈ ds, _))

theorem handOver_nil (ds : List Declaration) : handOver [] ds = ds := by
  induction ds with
  | nil => rfl
  | cons d ds ih => rw [handOver, ih, List.filter_nil, receive_nil, ite_self]

theorem length_handOver (blocks : List ParseTree) (ds : List Declaration) :
    (handOver blocks ds).length = ds.length := by
  induction ds with
  | nil => rfl
  | cons d ds ih => rw [handOver, List.length_cons, List.length_cons, ih]

theorem getElem?_handOver (blocks : List ParseTree) (ds : List Declaration) (i : Nat) :
    (handOver blocks ds)[i]? = ds[i]?.map fun d =>
      if IsLast d (ds.drop (i + 1)) then receive (blocks.filter fun b => IsFor d.name b) d
      else d := by
  induction ds generalizing i with
  | nil => rfl
  | cons d ds ih =>
    cases i with
    | zero => rfl
    | succ i => exact ih i

/-- Only blocks for one of the types matter. -/
theorem handOver_congr {blocks others : List ParseTree} {ds : List Declaration}
    (h : ∀ d ∈ ds, d.kind.isNamedType = true →
      (blocks.filter fun b => IsFor d.name b) = others.filter fun b => IsFor d.name b) :
    handOver blocks ds = handOver others ds := by
  induction ds with
  | nil => rfl
  | cons d ds ih =>
    rw [handOver, handOver, ih fun e he => h e (List.mem_cons_of_mem d he)]
    split
    · rename_i hlast
      rw [h d List.mem_cons_self hlast.1]
    · rfl

theorem handOver_filter (blocks : List ParseTree) (ds : List Declaration) :
    handOver (blocks.filter fun b => HasTarget ds b) ds = handOver blocks ds := by
  apply handOver_congr
  intro d hd hkind
  rw [List.filter_filter]
  apply List.filter_congr
  intro block _
  by_cases hblock : IsFor d.name block
  · have htarget : HasTarget ds block := ⟨d, hd, hkind, hblock⟩
    simp [hblock, htarget]
  · simp [hblock]

/-- What is looked for in a type stays the same when something is handed over. -/
theorem any_handOver (blocks : List ParseTree) (ds : List Declaration) (name : String) :
    ((handOver blocks ds).any fun d => d.kind.isNamedType && d.name == name) =
      ds.any fun d => d.kind.isNamedType && d.name == name := by
  induction ds with
  | nil => rfl
  | cons d ds ih =>
    rw [handOver, List.any_cons, List.any_cons, ih]
    split <;> rfl

/-- One more block finds, after any others, the type that it would have found before them. -/
theorem attach_handOver (blocks : List ParseTree) (block : ParseTree) (ds : List Declaration) :
    attach (handOver blocks ds) block = handOver (blocks ++ [block]) ds := by
  unfold attach
  split
  · rename_i hself
    apply handOver_congr
    intro d _ _
    have hblock : ¬IsFor d.name block := by simp [← selfNameIn?_eq_some_iff, hself]
    simp [hblock]
  · rename_i name hself
    have hfor : ∀ other, IsFor other block ↔ name = other := by
      simp [← selfNameIn?_eq_some_iff, hself]
    induction ds with
    | nil => rfl
    | cons d ds ih =>
      rw [handOver, changeLast_cons, any_handOver, handOver]
      split
      · rename_i hlater
        -- The block goes to a later type, so it is not for this one if this one is the last.
        have hother : IsLast d ds → ¬IsFor d.name block := by
          intro hlast hblock
          obtain ⟨e, he, hnamed⟩ := List.any_eq_true.mp hlater
          rw [Bool.and_eq_true, beq_iff_eq, (hfor d.name).mp hblock] at hnamed
          exact hlast.2 e he hnamed.1 hnamed.2
        rw [ih]
        split
        · rename_i hlast
          simp [hother hlast]
        · rfl
      · rename_i hlater
        have hnone : ∀ e ∈ ds, e.kind.isNamedType = true → e.name ≠ name := by
          simpa using hlater
        have hrest : handOver (blocks ++ [block]) ds = handOver blocks ds := by
          apply handOver_congr
          intro e he hkind
          have hblock : ¬IsFor e.name block := by
            rw [hfor]
            exact (hnone e he hkind).symm
          simp [hblock]
        rw [hrest]
        split
        · rename_i hlast
          by_cases hname : name = d.name
          · simp [hname, hlast.1, (hfor d.name).mpr hname, extend_receive]
          · simp [Ne.symm hname, hfor, hname]
        · rename_i hlast
          have hother : (d.kind.isNamedType && d.name == name) = false := by
            rw [Bool.eq_false_iff]
            intro hnamed
            rw [Bool.and_eq_true, beq_iff_eq] at hnamed
            exact hlast ⟨hnamed.1, hnamed.2 ▸ hnone⟩
          simp [hother]

theorem foldl_attach_handOver (blocks more : List ParseTree) (ds : List Declaration) :
    more.foldl attach (handOver blocks ds) = handOver (blocks ++ more) ds := by
  induction more generalizing blocks with
  | nil => rw [List.foldl_nil, List.append_nil]
  | cons block more ih =>
    rw [List.foldl_cons, attach_handOver, ih, List.append_assoc, List.singleton_append]

/-- The declarations of the items in a list that are no blocks. -/
def plainItems (siblings : List ParseTree) : List Declaration :=
  ((withPreceding [] siblings).filter fun p => p.2.kind ≠ "impl_item").flatMap fun p =>
    item p.1 p.2

theorem itemsFrom_eq (before siblings : List ParseTree) :
    itemsFrom before siblings =
      ((withPreceding before siblings).filter fun p => p.2.kind ≠ "impl_item").flatMap fun p =>
        item p.1 p.2 := by
  induction siblings generalizing before with
  | nil => simp [itemsFrom, withPreceding]
  | cons t ts ih =>
    rw [itemsFrom, withPreceding]
    split
    · rw [ih, List.filter_cons]
      by_cases hkind : t.kind = "impl_item"
      · have hitem : item before t = [] := by simp [item_eq, plainItem?, hkind]
        simp [hkind, hitem]
      · simp [hkind]
    · exact ih before

theorem items_eq_handOver (siblings : List ParseTree) :
    items siblings = handOver (blocks siblings) (plainItems siblings) := by
  have hrun := foldl_attach_handOver [] (blocks siblings) (plainItems siblings)
  rw [handOver_nil, List.nil_append] at hrun
  rw [items, itemsFrom_eq, ← hrun, plainItems]

/-- Each declaration of a list of items is the one read at its place, and if that is the last type
of its name, it has received all that the blocks for this name hold, in their order. Neither the
places of the blocks between the items matter nor the blocks that are for none of the types. -/
theorem items_receive_blocks (siblings : List ParseTree) :
    (items siblings).length = (plainItems siblings).length ∧
    (∀ i d, (plainItems siblings)[i]? = some d →
      (items siblings)[i]? = some
        (if IsLast d ((plainItems siblings).drop (i + 1)) then
          receive ((blocks siblings).filter fun b => IsFor d.name b) d
        else d)) ∧
    ∀ others, plainItems others = plainItems siblings →
      ((blocks others).filter fun b => HasTarget (plainItems siblings) b) =
        ((blocks siblings).filter fun b => HasTarget (plainItems siblings) b) →
      items others = items siblings := by
  refine ⟨?_, ?_, ?_⟩
  · rw [items_eq_handOver]
    exact length_handOver _ _
  · intro i d hd
    rw [items_eq_handOver, getElem?_handOver, hd, Option.map_some]
  · intro others hplain hblocks
    rw [items_eq_handOver, hplain, ← handOver_filter, hblocks, handOver_filter, items_eq_handOver]

end Rust

end DeclTree

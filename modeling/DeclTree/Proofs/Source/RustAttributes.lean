import DeclTree.Proofs.Source.RustBlocks
import DeclTree.Proofs.Source.Spaces

/-!
# Attributes of Rust items

An item looks backwards for its attributes, over attributes and comments, up to the next item. So
every attribute with an item behind it belongs to one item, the first one behind it, and what the
attribute says is recorded there and nowhere else. Attributes behind the last item belong to none.

Attributes are told apart by their places among the named siblings, since two of them may be equal
as trees.
-/

namespace DeclTree.Rust

open ParseTree

/-! ## Places among siblings -/

def AttributeAt (siblings : List ParseTree) (i : Nat) : Prop :=
  siblings[i]?.map kind = some "attribute_item"

/-- There is a node that is neither an attribute nor a comment. -/
def ItemAt (siblings : List ParseTree) (i : Nat) : Prop :=
  ∃ t ∈ siblings[i]?, t.kind ∉ ["attribute_item", "line_comment", "block_comment"]

/-- There is an attribute at the first place, and nothing but attributes and comments between it and
the second. -/
def BelongsTo (siblings : List ParseTree) (i j : Nat) : Prop :=
  AttributeAt siblings i ∧ i < j ∧ ∀ k < j, i < k → ¬ItemAt siblings k

instance (siblings : List ParseTree) (i : Nat) : Decidable (AttributeAt siblings i) :=
  inferInstanceAs (Decidable (_ = _))

instance (siblings : List ParseTree) (i : Nat) : Decidable (ItemAt siblings i) :=
  inferInstanceAs (Decidable (∃ t ∈ siblings[i]?, _))

instance (siblings : List ParseTree) (i j : Nat) : Decidable (BelongsTo siblings i j) :=
  inferInstanceAs (Decidable (_ ∧ _))

/-- The places of the attributes that belong to the node at a place, in their order. -/
def attributePlaces (siblings : List ParseTree) (j : Nat) : List Nat :=
  (List.range j).filter fun i => BelongsTo siblings i j

/-- The attributes that belong to the node at a place. -/
def attributesAt (siblings : List ParseTree) (j : Nat) : List ParseTree :=
  (attributePlaces siblings j).filterMap fun i => siblings[i]?

theorem mem_attributePlaces {siblings : List ParseTree} {i j : Nat} :
    i ∈ attributePlaces siblings j ↔ BelongsTo siblings i j := by
  rw [attributePlaces, List.mem_filter, List.mem_range, decide_eq_true_iff,
    and_iff_right_iff_imp]
  exact fun h => h.2.1

theorem not_itemAt_of_attributeAt {siblings : List ParseTree} {i : Nat}
    (h : AttributeAt siblings i) : ¬ItemAt siblings i := by
  rintro ⟨t, ht, hkind⟩
  rw [AttributeAt, Option.mem_def.mp ht, Option.map_some, Option.some.injEq] at h
  simp [h] at hkind

/-! ## Owners -/

theorem belongsTo_succ {siblings : List ParseTree} {i j : Nat} :
    BelongsTo siblings i (j + 1) ↔
      BelongsTo siblings i j ∧ ¬ItemAt siblings j ∨ AttributeAt siblings i ∧ i = j := by
  constructor
  · rintro ⟨hi, hlt, hbetween⟩
    by_cases hij : i = j
    · exact .inr ⟨hi, hij⟩
    · exact .inl ⟨⟨hi, by omega, fun k hk => hbetween k (by omega)⟩,
        hbetween j (by omega) (by omega)⟩
  · rintro (⟨⟨hi, hlt, hbetween⟩, hj⟩ | ⟨hi, rfl⟩)
    · refine ⟨hi, by omega, fun k hk hik => ?_⟩
      by_cases hkj : k = j
      · exact hkj ▸ hj
      · exact hbetween k (by omega) hik
    · exact ⟨hi, by omega, fun k hk hik => by omega⟩

/-- Two items share no attribute: the one that comes first would stand between the attribute and the
other. -/
theorem eq_of_belongsTo {siblings : List ParseTree} {i j k : Nat} (hj : ItemAt siblings j)
    (hk : ItemAt siblings k) (hij : BelongsTo siblings i j) (hik : BelongsTo siblings i k) :
    j = k := by
  rcases Nat.lt_trichotomy j k with hlt | heq | hlt
  · exact absurd hj (hik.2.2 j hlt hij.2.1)
  · exact heq
  · exact absurd hk (hij.2.2 k hlt hik.2.1)

/-- An attribute with an item somewhere behind it belongs to the first one. -/
theorem exists_owner {siblings : List ParseTree} {i j : Nat} (hi : AttributeAt siblings i)
    (hij : i < j) (hj : ItemAt siblings j) :
    ∃ k ≤ j, ItemAt siblings k ∧ BelongsTo siblings i k := by
  induction j using Nat.strongRecOn with
  | ind j ih =>
    by_cases hbetween : ∃ k < j, i < k ∧ ItemAt siblings k
    · obtain ⟨k, hkj, hik, hk⟩ := hbetween
      obtain ⟨m, hmk, hm, hbelongs⟩ := ih k hkj hik hk
      exact ⟨m, by omega, hm, hbelongs⟩
    · exact ⟨j, le_rfl, hj, hi, hij, fun k hkj hik hk => hbetween ⟨k, hkj, hik, hk⟩⟩

/-! ## Looking backwards -/

theorem attributePlaces_succ {siblings : List ParseTree} {j : Nat} :
    attributePlaces siblings (j + 1) =
      if ItemAt siblings j then []
      else if AttributeAt siblings j then attributePlaces siblings j ++ [j]
      else attributePlaces siblings j := by
  rw [attributePlaces, List.range_succ, List.filter_append]
  by_cases hitem : ItemAt siblings j
  · have hnone : ∀ i, ¬BelongsTo siblings i (j + 1) := by
      intro i h
      rcases belongsTo_succ.mp h with ⟨-, hj⟩ | ⟨hi, rfl⟩
      · exact hj hitem
      · exact not_itemAt_of_attributeAt hi hitem
    simp [hitem, hnone]
  · have hold : ((List.range j).filter fun i => BelongsTo siblings i (j + 1)) =
        attributePlaces siblings j := by
      refine List.filter_congr fun i hi => decide_eq_decide.mpr ?_
      have hlt := List.mem_range.mp hi
      rw [belongsTo_succ, and_iff_left hitem, or_iff_left]
      omega
    have hlast : BelongsTo siblings j (j + 1) ↔ AttributeAt siblings j := by
      rw [belongsTo_succ, and_iff_left rfl, or_iff_right]
      exact fun h => absurd h.1.2.1 (by omega)
    rw [hold, if_neg hitem]
    by_cases hattribute : AttributeAt siblings j <;> simp [hlast, hattribute]

theorem itemAt_iff {siblings : List ParseTree} {j : Nat} {t : ParseTree}
    (ht : siblings[j]? = some t) :
    ItemAt siblings j ↔ (isAttribute t || isComment t) = false := by
  simp [ItemAt, ht, isAttribute, isComment]

theorem attributeAt_iff {siblings : List ParseTree} {j : Nat} {t : ParseTree}
    (ht : siblings[j]? = some t) : AttributeAt siblings j ↔ isAttribute t = true := by
  simp [AttributeAt, ht, isAttribute]

/-- The walk back from a place finds the attributes that belong there. -/
theorem attributesAmong_take (siblings : List ParseTree) {j : Nat} (hj : j ≤ siblings.length) :
    attributesAmong (siblings.take j).reverse = attributesAt siblings j := by
  induction j with
  | zero => rfl
  | succ j ih =>
    have hlt : j < siblings.length := hj
    have ht : siblings[j]? = some siblings[j] := List.getElem?_eq_getElem hlt
    have hwalk := ih (Nat.le_of_lt hlt)
    rw [attributesAmong] at hwalk
    rw [attributesAt, attributePlaces_succ, List.take_add_one, ht, Option.toList_some,
      List.reverse_append, List.reverse_singleton, List.singleton_append, attributesAmong]
    simp only [itemAt_iff ht, attributeAt_iff ht]
    cases hattribute : isAttribute siblings[j] with
    | true =>
      rw [List.takeWhile_cons_of_pos (by simp [hattribute]),
        List.filter_cons_of_pos (by simp [hattribute]), List.reverse_cons, hwalk, attributesAt]
      simp [ht]
    | false =>
      cases hcomment : isComment siblings[j] with
      | true =>
        rw [List.takeWhile_cons_of_pos (by simp [hcomment]),
          List.filter_cons_of_neg (by simp [hattribute]), hwalk, attributesAt]
        simp
      | false => simp [hattribute, hcomment]

/-- The siblings are read with the named ones before them. -/
theorem getElem?_withPreceding (before siblings : List ParseTree) (j : Nat) :
    (withPreceding before siblings)[j]? =
      (siblings.filter named)[j]?.map fun t =>
        (((siblings.filter named).take j).reverse ++ before, t) := by
  induction siblings generalizing before j with
  | nil => simp [withPreceding]
  | cons s siblings ih =>
    rw [withPreceding, List.filter_cons]
    split
    · cases j with
      | zero => simp
      | succ j => simp [ih]
    · exact ih before j

theorem map_snd_withPreceding (siblings : List ParseTree) :
    (withPreceding [] siblings).map Prod.snd = siblings.filter named := by
  refine List.ext_getElem? fun j => ?_
  rw [List.getElem?_map, getElem?_withPreceding, Option.map_map]
  exact Option.map_id' ..

/-! ## What attributes record -/

/-- The path of an attribute, if it can be read as a type. -/
def annotation? (item : ParseTree) : Option TypeName :=
  item.firstNamed?.bind fun inner => inner.firstNamed?.bind typeName?

/-- The traits that an attribute derives; only one without a qualifier and of this name does. -/
def derives (item : ParseTree) : List TypeName :=
  (annotation? item).elim [] fun type =>
    if type.name = "derive" ∧ type.qualifier = "" then
      (item.firstNamed?.bind fun inner => inner.child? "arguments").elim [] derivedTraits
    else []

theorem annotate_eq (h : Header) (item : ParseTree) :
    annotate h item =
      { h with
        annotations := h.annotations ++ (annotation? item).toList
        interfaces := h.interfaces ++
          TypeName.missing (TypeName.canonicals h.interfaces) (derives item) } := by
  unfold annotate derives annotation?
  cases item.firstNamed? with
  | none => simp [TypeName.missing]
  | some inner =>
    simp only [Option.bind_some]
    cases inner.firstNamed?.bind typeName? with
    | none => simp [TypeName.missing]
    | some type =>
      by_cases hderive : type.name = "derive" ∧ type.qualifier = ""
      · simp [hderive, foldl_addInterface_eq]
      · have htest : (decide (type.name = "derive") && type.qualifier.isEmpty) = false := by
          simpa [String.isEmpty_iff] using hderive
        simp [htest, hderive, TypeName.missing]

/-- Every attribute adds its path to the annotations and what it derives to the interfaces, each
interface once. -/
theorem foldl_annotate_eq (items : List ParseTree) (h : Header) :
    items.foldl annotate h =
      { h with
        annotations := h.annotations ++ items.filterMap annotation?
        interfaces := h.interfaces ++
          TypeName.missing (TypeName.canonicals h.interfaces) (items.flatMap derives) } := by
  induction items generalizing h with
  | nil => simp [TypeName.missing]
  | cons item items ih =>
    rw [List.foldl_cons, ih, annotate_eq, List.flatMap_cons, TypeName.missing_append]
    cases hitem : annotation? item <;> simp [hitem]

/-- A sibling is read with the attributes that belong to its place: their paths are the annotations
of what is declared there, and what they derive are its interfaces. -/
structure ReadAt (siblings : List ParseTree) (j : Nat) (before : List ParseTree) (t : ParseTree) :
    Prop where
  here : siblings[j]? = some t
  attributes : attributesAmong before = attributesAt siblings j
  recorded : ∀ kind d, declare? kind before t = some d →
    d.header.annotations = (attributesAt siblings j).filterMap annotation? ∧
      d.header.interfaces = TypeName.missing [] ((attributesAt siblings j).flatMap derives)

/-- Every attribute with an item behind it belongs to one item, the first one behind it. -/
structure Divided (siblings : List ParseTree) : Prop where
  disjoint : ∀ j k, ItemAt siblings j → ItemAt siblings k → j ≠ k →
    (attributePlaces siblings j).Disjoint (attributePlaces siblings k)
  owned : ∀ i j, AttributeAt siblings i → ItemAt siblings j → i < j →
    ∃ k ≤ j, i < k ∧ ItemAt siblings k ∧ (∀ m < k, i < m → ¬ItemAt siblings m) ∧
      ∀ m, ItemAt siblings m → (i ∈ attributePlaces siblings m ↔ m = k)

theorem readAt_of_withPreceding {siblings before : List ParseTree} {j : Nat} {t : ParseTree}
    (h : (withPreceding [] siblings)[j]? = some (before, t)) :
    ReadAt (siblings.filter named) j before t := by
  rw [getElem?_withPreceding, List.append_nil, Option.map_eq_some_iff] at h
  obtain ⟨t, ht, heq⟩ := h
  cases heq
  have hlt := (List.getElem?_eq_some_iff.mp ht).1
  have hattributes := attributesAmong_take (siblings.filter named) (Nat.le_of_lt hlt)
  refine ⟨ht, hattributes, fun kind d hd => ?_⟩
  obtain ⟨name, -, hd⟩ := Option.bind_eq_some_iff.mp hd
  cases hd
  rw [Declaration.header_node, foldl_annotate_eq, hattributes]
  simp

theorem divided (siblings : List ParseTree) : Divided siblings where
  disjoint := by
    intro j k hj hk hne i hij hik
    rw [mem_attributePlaces] at hij hik
    exact hne (eq_of_belongsTo hj hk hij hik)
  owned := by
    intro i j hi hj hij
    obtain ⟨k, hkj, hk, hbelongs⟩ := exists_owner hi hij hj
    refine ⟨k, hkj, hbelongs.2.1, hk, hbelongs.2.2, fun m hm => ?_⟩
    rw [mem_attributePlaces]
    constructor
    · exact fun h => eq_of_belongsTo hm hk h hbelongs
    · rintro rfl
      exact hbelongs

/-- Every named sibling is read, and with exactly the attributes before it from which only
attributes and comments divide it, in their order. So no two items have an attribute in common, and
each attribute with an item behind it belongs to the first such item and to no other. -/
theorem attributes_have_one_owner (siblings : List ParseTree) :
    (withPreceding [] siblings).map Prod.snd = siblings.filter named ∧
    (∀ j before t, (withPreceding [] siblings)[j]? = some (before, t) →
      ReadAt (siblings.filter named) j before t) ∧
    Divided (siblings.filter named) :=
  ⟨map_snd_withPreceding siblings, fun _ _ _ h => readAt_of_withPreceding h, divided _⟩

/-! ## Two structs with the same attribute -/

open Source (token)

def cloneAttribute : ParseTree :=
  .node ⟨"attribute_item", true, "", "#[derive(Clone)]"⟩ [
    token "#" false "" "#",
    token "[" false "" "[",
    .node ⟨"attribute", true, "", "derive(Clone)"⟩ [
      token "identifier" true "" "derive",
      token "token_tree" true "arguments" "(Clone)"],
    token "]" false "" "]"]

def unitStruct (name : String) : ParseTree :=
  .node ⟨"struct_item", true, "", "struct " ++ name ++ ";"⟩ [
    token "struct" false "" "struct",
    token "type_identifier" true "name" name,
    token ";" false "" ";"]

/-- One struct has the attribute twice, around a comment, the next one has it once, and one more
stands at the end. -/
def coinItems : List ParseTree :=
  [cloneAttribute, token "line_comment" true "" "// spare", cloneAttribute, unitStruct "Coin",
    token ";" false "" ";", cloneAttribute, unitStruct "Purse", cloneAttribute]

def purseBefore : List ParseTree :=
  [cloneAttribute, unitStruct "Coin", cloneAttribute, token "line_comment" true "" "// spare",
    cloneAttribute]

theorem coin_attributes_have_one_owner :
    (withPreceding [] coinItems)[5]? = some (purseBefore, unitStruct "Purse") ∧
      attributesAmong purseBefore = [cloneAttribute] ∧
      attributePlaces (coinItems.filter named) 3 = [0, 2] ∧
      (attributePlaces (coinItems.filter named) 3).Disjoint
        (attributePlaces (coinItems.filter named) 5) ∧
      ∃ k ≤ 5, ItemAt (coinItems.filter named) k ∧
        ∀ m, ItemAt (coinItems.filter named) m →
          (2 ∈ attributePlaces (coinItems.filter named) m ↔ m = k) := by
  have hread : (withPreceding [] coinItems)[5]? = some (purseBefore, unitStruct "Purse") := rfl
  obtain ⟨-, hreadAt, hdivided⟩ := attributes_have_one_owner coinItems
  have hattributes : attributesAt (coinItems.filter named) 5 = [cloneAttribute] := by cbv
  refine ⟨hread, ?_, by decide, ?_, ?_⟩
  · rw [(hreadAt 5 _ _ hread).attributes, hattributes]
  · exact hdivided.disjoint 3 5 (by decide) (by decide) (by decide)
  · obtain ⟨k, hk, -, hitem, -, howner⟩ :=
      hdivided.owned 2 5 (by decide) (by decide) (by decide)
    exact ⟨k, hk, hitem, howner⟩

end DeclTree.Rust

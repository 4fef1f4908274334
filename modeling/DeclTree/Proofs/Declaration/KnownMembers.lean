import DeclTree.Load
import DeclTree.Proofs.Json.Layout
import DeclTree.Proofs.Json.Members
import DeclTree.Proofs.Json.Recognition
import Mathlib

/-!
# Known members of declarations

A declaration or constraints in object form are read by the members that their records know. The
order of the members does not matter, others beside them do not matter whatever their values are,
and a known name that stands twice makes the whole text unreadable. All of this holds at every place
of a tree where such an object is read, so places are told apart by what is read there.
-/

namespace DeclTree

namespace Declaration

/-! ## Decoding field by field -/

/-- The children that an array holds, which counts as opened. -/
def childrenOfJson? (room : Nat) : Json → Option (List Declaration)
  | .array items =>
    match room with
    | 0 => none
    | room + 1 => items.mapM (decode room)
  | _ => none

theorem decode_succ {room : Nat} {json : Json} {field : String → Option Json}
    (h : Json.record fieldNames json = some (fieldNames.map field)) :
    decode (room + 1) json =
      (headerOfFields? room (field "kind") (field "name") (field "visibility")
        (field "annotations") (field "interfaces") (field "base") (field "constraints")
        (field "synthetic")).bind fun header =>
          ((field "children").elim (some []) (childrenOfJson? room)).map (.node header) := by
  rw [decode, h]
  simp only [fieldNames, List.map_cons, List.map_nil, Option.bind_eq_bind, Option.bind_some]
  refine congrArg (Option.bind _) (funext fun header => ?_)
  cases field "children" with
  | none => rfl
  | some value =>
    cases value with
    | array items =>
      cases room with
      | zero => rfl
      | succ room =>
        simp only [Option.elim_some, childrenOfJson?]
        cases items.mapM (decode room) <;> rfl
    | _ => rfl

theorem decode_eq_none {json : Json} (h : Json.record fieldNames json = none) (room : Nat) :
    decode room json = none := by
  cases room with
  | zero => rfl
  | succ room =>
    rw [decode, h]
    rfl

/-! ## Places -/

/-- What stands at a place of a value: a declaration, the children of one, the constraints of one,
or what is no object with known members and has none inside. -/
inductive Part where
  | declaration
  | declarations
  | constraints
  | other

namespace Part

/-- The known members of an object that stands here. -/
def names? : Part → Option (List String)
  | .declaration => some Declaration.fieldNames
  | .constraints => some Constraints.fieldNames
  | _ => none

/-- What the value of a member is, in an object that stands here. -/
def member : Part → Option String → Part
  | .declaration, some "constraints" => .constraints
  | .declaration, some "children" => .declarations
  | _, _ => .other

/-- What an item is, in an array that stands here. -/
def item : Part → Nat → Part
  | .declarations, _ => .declaration
  | part, i => (part.names?.bind fun names => names[i]?).elim .other fun name =>
      part.member (some name)

/-- What a value here is read to. -/
def Reading : Part → Type
  | .declaration => Declaration
  | .declarations => List Declaration
  | .constraints => Option Constraints
  | .other => Json

/-- The reading of a value here, with `room` arrays and objects left to open. -/
def read (room : Nat) : (part : Part) → Json → Option part.Reading
  | .declaration, json => decode room json
  | .declarations, json => childrenOfJson? room json
  | .constraints, json => Constraints.optionOfJson? room json
  | .other, json => some json

end Part

/-- A change to the members of an object with known members, somewhere in a value: their order
changes, or a member with an unknown name is added to them. -/
inductive Edit : Part → Json → Json → Prop
  | reorder {part : Part} {names : List String} {members others : List (Option String × Json)}
      (hnames : part.names? = some names) (h : members.Perm others) :
      Edit part (.object members) (.object others)
  | insert {part : Part} {names : List String} (hnames : part.names? = some names)
      (front back : List (Option String × Json)) {name : String} (hname : name ∉ names)
      (value : Json) :
      Edit part (.object (front ++ back)) (.object (front ++ (some name, value) :: back))
  | member {part : Part} (front back : List (Option String × Json)) (name : Option String)
      {value changed : Json} (h : Edit (part.member name) value changed) :
      Edit part (.object (front ++ (name, value) :: back))
        (.object (front ++ (name, changed) :: back))
  | item {part : Part} (front back : List Json) {value changed : Json}
      (h : Edit (part.item front.length) value changed) :
      Edit part (.array (front ++ value :: back)) (.array (front ++ changed :: back))

/-- Somewhere in a value, an object has a known member twice. -/
inductive Repeats : Part → Json → Prop
  | here {part : Part} {names : List String} (hnames : part.names? = some names) {name : String}
      (hname : name ∈ names) (front middle back : List (Option String × Json))
      (first second : Json) :
      Repeats part (.object
        (front ++ (some name, first) :: (middle ++ (some name, second) :: back)))
  | member {part : Part} (front back : List (Option String × Json)) (name : Option String)
      {value : Json} (h : Repeats (part.member name) value) :
      Repeats part (.object (front ++ (name, value) :: back))
  | item {part : Part} (front back : List Json) {value : Json}
      (h : Repeats (part.item front.length) value) :
      Repeats part (.array (front ++ value :: back))

/-! ## Readings -/

theorem read_eq_of_record {part : Part} {names : List String} (hnames : part.names? = some names)
    {members others : List (Option String × Json)}
    (h : Json.record names (.object members) = Json.record names (.object others)) (room : Nat) :
    part.read room (.object members) = part.read room (.object others) := by
  cases part with
  | declaration =>
    cases hnames
    cases room with
    | zero => rfl
    | succ room => rw [Part.read, Part.read, decode, decode, h]
  | constraints =>
    cases hnames
    cases room with
    | zero => rfl
    | succ room =>
      have hread : Constraints.ofJson? (room + 1) (.object members) =
          Constraints.ofJson? (room + 1) (.object others) := by
        rw [Constraints.ofJson?, Constraints.ofJson?, h]
      exact congrArg (Option.map some) hread
  | declarations | other => cases hnames

theorem read_eq_none_of_record {part : Part} {names : List String}
    (hnames : part.names? = some names) {members : List (Option String × Json)}
    (h : Json.record names (.object members) = none) (room : Nat) :
    part.read room (.object members) = none := by
  cases part with
  | declaration =>
    cases hnames
    exact decode_eq_none h room
  | constraints =>
    cases hnames
    cases room with
    | zero => rfl
    | succ room =>
      have hread : Constraints.ofJson? (room + 1) (.object members) = none := by
        rw [Constraints.ofJson?, h]
        rfl
      exact congrArg (Option.map some) hread
  | declarations | other => cases hnames

/-- The values of a family are read by reading what differs in them: the same readings there give
the same reading, and none gives none. -/
structure ReadThrough (part inside : Part) (family : Json → Json) : Prop where
  same : ∀ room value changed, inside.read (room - 1) value = inside.read (room - 1) changed →
    part.read room (family value) = part.read room (family changed)
  none : ∀ room value, inside.read (room - 1) value = none → part.read room (family value) = none

theorem readThrough_other (part : Part) (family : Json → Json) :
    ReadThrough part .other family where
  same room value changed h := by
    obtain rfl : value = changed := Option.some.inj h
    rfl
  none room value h := by cases h

/-- With no room left nothing is read of a declaration, so only the other case is to be shown. -/
theorem readThrough_of_decode {inside : Part} {name : String} {family : Json → Json}
    (h : Json.Focus fieldNames name family)
    (hdecode : ∀ room others, Json.FieldsBut fieldNames name others family →
      (∀ value changed, inside.read room value = inside.read room changed →
        decode (room + 1) (family value) = decode (room + 1) (family changed)) ∧
      ∀ value, inside.read room value = none → decode (room + 1) (family value) = none) :
    ReadThrough .declaration inside family := by
  rcases h with hrefused | ⟨others, hfields⟩
  · have hnone : ∀ room value, decode room (family value) = none :=
      fun room value => decode_eq_none (hrefused value) room
    exact ⟨fun room value changed _ => (hnone room value).trans (hnone room changed).symm,
      fun room value _ => hnone room value⟩
  · refine ⟨fun room value changed hinside => ?_, fun room value hinside => ?_⟩
    · cases room with
      | zero => rfl
      | succ room => exact (hdecode room others hfields).1 value changed hinside
    · cases room with
      | zero => rfl
      | succ room => exact (hdecode room others hfields).2 value hinside

theorem readThrough_constraints {family : Json → Json}
    (h : Json.Focus fieldNames "constraints" family) :
    ReadThrough .declaration .constraints family := by
  refine readThrough_of_decode h fun room others hfields => ⟨fun value changed heq => ?_,
    fun value hnone => ?_⟩
  · have hinside : Constraints.optionOfJson? room value = Constraints.optionOfJson? room changed :=
      heq
    simp [decode_succ (hfields _), headerOfFields?, hinside]
  · have hinside : Constraints.optionOfJson? room value = none := hnone
    simp [decode_succ (hfields _), headerOfFields?, hinside]

theorem readThrough_children {family : Json → Json}
    (h : Json.Focus fieldNames "children" family) :
    ReadThrough .declaration .declarations family := by
  refine readThrough_of_decode h fun room others hfields => ⟨fun value changed heq => ?_,
    fun value hnone => ?_⟩
  · have hinside : childrenOfJson? room value = childrenOfJson? room changed := heq
    simp [decode_succ (hfields _), hinside]
  · have hinside : childrenOfJson? room value = none := hnone
    simp [decode_succ (hfields _), hinside]

/-- A list of children is read child by child. -/
theorem readThrough_child (front back : List Json) :
    ReadThrough .declarations .declaration fun value => .array (front ++ value :: back) where
  same room value changed heq := by
    cases room with
    | zero => rfl
    | succ room =>
      have hinside : decode room value = decode room changed := heq
      show (front ++ value :: back).mapM (decode room) =
        (front ++ changed :: back).mapM (decode room)
      simp [hinside]
  none room value hnone := by
    cases room with
    | zero => rfl
    | succ room =>
      have hinside : decode room value = none := hnone
      show (front ++ value :: back).mapM (decode room) = none
      simp [hinside]

theorem readThrough_field {part : Part} {names : List String} (hnames : part.names? = some names)
    {name : String} {family : Json → Json} (h : Json.Focus names name family) :
    ReadThrough part (part.member (some name)) family := by
  unfold Part.member
  split
  · rename_i heq
    cases heq
    cases hnames
    exact readThrough_constraints h
  · rename_i heq
    cases heq
    cases hnames
    exact readThrough_children h
  · exact readThrough_other _ _

theorem readThrough_member (part : Part) (front back : List (Option String × Json))
    (name : Option String) :
    ReadThrough part (part.member name) fun value => .object (front ++ (name, value) :: back) := by
  -- Only two members of a declaration have known members inside; the others are kept as they are.
  by_cases hother : part.member name = .other
  · rw [hother]
    exact readThrough_other _ _
  · have hknown : ∃ names key, part.names? = some names ∧ name = some key ∧ key ∈ names := by
      unfold Part.member at hother
      split at hother
      · exact ⟨_, _, rfl, rfl, by decide⟩
      · exact ⟨_, _, rfl, rfl, by decide⟩
      · exact absurd rfl hother
    obtain ⟨names, key, hnames, rfl, hkey⟩ := hknown
    exact readThrough_field hnames (Json.focus_object hkey)

theorem nodup_names {part : Part} {names : List String} (h : part.names? = some names) :
    names.Nodup := by
  cases part with
  | declaration | constraints =>
    cases h
    decide
  | declarations | other => cases h

/-- An array is read as a record by the places of its items. -/
theorem readThrough_place {part : Part} {names : List String} (hnames : part.names? = some names)
    (front back : List Json) :
    ReadThrough part (names[front.length]?.elim .other fun name => part.member (some name))
      fun value => .array (front ++ value :: back) := by
  cases hname : names[front.length]? with
  | none => exact readThrough_other _ _
  | some name => exact readThrough_field hnames (Json.focus_array (nodup_names hnames) hname)

theorem readThrough_item (part : Part) (front back : List Json) :
    ReadThrough part (part.item front.length) fun value => .array (front ++ value :: back) := by
  cases part with
  | declarations => exact readThrough_child front back
  | declaration | constraints => exact readThrough_place rfl front back
  | other => exact readThrough_other _ _

theorem Edit.read_eq {part : Part} {value changed : Json} (h : Edit part value changed)
    (room : Nat) : part.read room value = part.read room changed := by
  -- Every step inwards leaves less room, so the room is a variable of the induction.
  induction h generalizing room with
  | reorder hnames h => exact read_eq_of_record hnames (Json.record_perm h) room
  | insert hnames front back hname value =>
    exact read_eq_of_record hnames (Json.record_insert hname value).symm room
  | member front back name _ ih =>
    exact (readThrough_member _ front back name).same room _ _ (ih (room - 1))
  | item front back _ ih => exact (readThrough_item _ front back).same room _ _ (ih (room - 1))

theorem Repeats.read_eq_none {part : Part} {value : Json} (h : Repeats part value) (room : Nat) :
    part.read room value = none := by
  induction h generalizing room with
  | here hnames hname front middle back first second =>
    exact read_eq_none_of_record hnames (Json.record_repeated hname first second middle) room
  | member front back name _ ih =>
    exact (readThrough_member _ front back name).none room _ (ih (room - 1))
  | item front back _ ih => exact (readThrough_item _ front back).none room _ (ih (room - 1))

theorem decode_eq_of_edits {value changed : Json}
    (h : Relation.ReflTransGen (Edit .declaration) value changed) (room : Nat) :
    decode room value = decode room changed := by
  induction h with
  | refl => rfl
  | tail _ hedit ih => exact ih.trans (hedit.read_eq room)

end Declaration

namespace Load

open Declaration

/-- Only a text that spells a value is read as a tree. -/
theorem exists_spelledBy_of_ofText {text : String} {d : Declaration} (h : ofText text = .ok d) :
    ∃ value, Json.SpelledBy value text := by
  rw [ofText, Declaration.ofText] at h
  cases hparse : Json.parse? text with
  | none => simp [hparse, Except.map] at h
  | some value => exact ⟨value, Json.parse?_eq_some_iff.mp hparse⟩

/-- A tree depends on the known members of its objects only, and none of them may stand twice. -/
theorem ofText_of_known_members {value : Json} {text : String}
    (htext : Json.SpelledBy value text) :
    (∀ changed other, Relation.ReflTransGen (Edit .declaration) value changed →
        Json.SpelledBy changed other → ofText other = ofText text) ∧
      (Repeats .declaration value → ofText text = .error .malformedJson) := by
  have hparse := Json.parse?_of_spelledBy htext
  refine ⟨fun changed other hedits hother => ?_, fun hrepeats => ?_⟩
  · have hdecode := decode_eq_of_edits hedits textRoom
    rw [ofText, ofText, Declaration.ofText, Declaration.ofText, Json.parse?_of_spelledBy hother,
      hparse, Option.bind_some, Option.bind_some, hdecode]
  · have hdecode : decode textRoom value = none := hrepeats.read_eq_none textRoom
    rw [ofText, Declaration.ofText, hparse, Option.bind_some, hdecode]
    rfl

/-- A value inside `n` arrays. -/
def wrapped : Nat → Json
  | 0 => .null
  | n + 1 => .array [wrapped n]

theorem writable_wrapped (n : Nat) : (wrapped n).Writable := by
  induction n with
  | zero => exact .null
  | succ n ih =>
    refine .array fun item hitem => ?_
    rw [List.mem_singleton.mp hitem]
    exact ih

theorem nesting_wrapped (n : Nat) : (wrapped n).nesting = n := by
  induction n with
  | zero => rfl
  | succ n ih => simp [wrapped, Json.nesting, Json.nestingItems, ih, Nat.add_comm]

/-- The form of a class with a type parameter that has the given members in its constraints. -/
def shelf (constraints : List (String × Json)) : List (String × Json) :=
  [("kind", .text "class"), ("name", .text "Shelf"), ("children", .array [.fields
    [("kind", .text "type_parameter"), ("name", .text "T"), ("constraints", .fields constraints)]])]

theorem writable_shelf {constraints : List (String × Json)}
    (h : ∀ m ∈ constraints, m.2.Writable) : ∀ m ∈ shelf constraints, m.2.Writable := by
  have hparameter : ∀ m ∈ [("kind", Json.text "type_parameter"), ("name", .text "T"),
      ("constraints", .fields constraints)], m.2.Writable := by
    simpa using ⟨.text _, .text _, .fields h⟩
  have hchildren : ∀ item ∈ [Json.fields [("kind", .text "type_parameter"), ("name", .text "T"),
      ("constraints", .fields constraints)]], item.Writable := by
    simpa using Json.Writable.fields hparameter
  simpa [shelf] using ⟨.text _, .text _, .array hchildren⟩

def plainShelf : Json := .fields (shelf [("value_type", .bool true)])

/-- A shelf with one more member of its constraints, a note nested too deep to be read, and its own
members the other way round. -/
def editedShelf : Json :=
  .fields (("note", wrapped 128) :: (shelf [("hint", .null), ("value_type", .bool true)]).reverse)

/-- A shelf whose parameter is demanded twice to be a value, far apart. -/
def repeatedShelf : Json :=
  .fields (shelf [("value_type", .bool true), ("hint", wrapped 128), ("value_type", .bool true)])

theorem decode_plainShelf : decode textRoom plainShelf =
    some (.node { kind := .class, name := "Shelf" }
      [.typeParameter "T" { valueType := true }]) := by
  have htext : ∀ s, Json.text? (.text s) = some s := fun _ => rfl
  have hclass : Kind.ofJson? 126 (.text "class") = some .class := by cbv
  have hparameter : Kind.ofJson? 124 (.text "type_parameter") = some .typeParameter := by cbv
  have hconstraints : Constraints.optionOfJson? 124 (.fields [("value_type", .bool true)]) =
      some (some { valueType := true }) := by
    simp [Constraints.optionOfJson?, Constraints.ofJson?, Json.fields, Json.record, Json.valuesOf,
      Constraints.fieldNames, Json.bool?]
  simp [textRoom, plainShelf, shelf, decode, Json.fields.eq_def [_, _, _], Json.record,
    Json.valuesOf, fieldNames, headerOfFields?, htext, hclass, hparameter, hconstraints,
    typeParameter]

theorem edits_plainShelf :
    Relation.ReflTransGen (Edit .declaration) plainShelf editedShelf := by
  have hhint : Edit .declaration plainShelf
      (.fields (shelf [("hint", .null), ("value_type", .bool true)])) :=
    .member [(some "kind", .text "class"), (some "name", .text "Shelf")] [] (some "children")
      (.item [] [] (.member [(some "kind", .text "type_parameter"), (some "name", .text "T")] []
        (some "constraints") (.insert rfl [] [(some "value_type", .bool true)] (by decide) .null)))
  have hnote : Edit .declaration (.fields (shelf [("hint", .null), ("value_type", .bool true)]))
      (.fields (("note", wrapped 128) :: shelf [("hint", .null), ("value_type", .bool true)])) :=
    .insert rfl [] _ (by decide) (wrapped 128)
  have horder : Edit .declaration
      (.fields (("note", wrapped 128) :: shelf [("hint", .null), ("value_type", .bool true)]))
      editedShelf :=
    .reorder rfl (((List.reverse_perm _).symm.cons _).map _)
  exact .tail (.tail (.single hhint) hnote) horder

theorem repeats_repeatedShelf : Repeats .declaration repeatedShelf :=
  .member [(some "kind", .text "class"), (some "name", .text "Shelf")] [] (some "children")
    (.item [] [] (.member [(some "kind", .text "type_parameter"), (some "name", .text "T")] []
      (some "constraints") (.here rfl (by decide) [] [(some "hint", wrapped 128)] [] _ _)))

theorem shelf_of_known_members :
    textRoom < editedShelf.nesting ∧
      ofText editedShelf.compact = .ok (.node { kind := .class, name := "Shelf" }
        [.typeParameter "T" { valueType := true }]) ∧
      ofText repeatedShelf.compact = .error .malformedJson := by
  have hplain : Json.SpelledBy plainShelf plainShelf.compact :=
    (Json.Writable.fields (writable_shelf (by simpa using .bool true))).spelledBy_compact
  have hedited : Json.SpelledBy editedShelf editedShelf.compact := by
    refine (Json.Writable.fields fun m hm => ?_).spelledBy_compact
    rcases List.mem_cons.mp hm with rfl | hm
    · exact writable_wrapped 128
    · exact writable_shelf (by simpa using ⟨.null, .bool true⟩) m (List.mem_reverse.mp hm)
  have hrepeated : Json.SpelledBy repeatedShelf repeatedShelf.compact := by
    refine (Json.Writable.fields (writable_shelf ?_)).spelledBy_compact
    simpa using ⟨.bool true, writable_wrapped 128, .bool true⟩
  have hread : ofText plainShelf.compact = .ok (.node { kind := .class, name := "Shelf" }
      [.typeParameter "T" { valueType := true }]) := by
    have hclose : (Declaration.node { kind := .class, name := "Shelf" }
        [.typeParameter "T" { valueType := true }]).close =
          .node { kind := .class, name := "Shelf" } [.typeParameter "T" { valueType := true }] := by
      cbv
    rw [ofText, Declaration.ofText, Json.parse?_of_spelledBy hplain, Option.bind_some,
      decode_plainShelf, Except.map, hclose]
  refine ⟨?_, ?_, (ofText_of_known_members hrepeated).2 repeats_repeatedShelf⟩
  · simp [editedShelf, Json.fields, Json.nesting, Json.nestingMembers, nesting_wrapped, textRoom]
    omega
  · exact ((ofText_of_known_members hplain).1 editedShelf _ edits_plainShelf hedited).trans hread

end Load

end DeclTree

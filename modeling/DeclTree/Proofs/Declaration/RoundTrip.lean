import DeclTree.Proofs.Json.Record
import DeclTree.Proofs.Occurrences
import DeclTree.Proofs.Outcomes
import DeclTree.Proofs.TypeName.RoundTrip

/-!
# Trees through their JSON text

The form of a declaration lists the fields that say something. How deep it nests decides whether it
is read: with room for that many arrays and objects a declaration comes back as it was, with less
it is refused.
-/

namespace DeclTree

/-! ## Types and constraints -/

namespace TypeName

/-- A list of types as a field, which is left out if there are none. -/
def listField (types : List TypeName) : Option Json :=
  if types.isEmpty then none else some (.array (types.map toJson))

def listNesting (types : List TypeName) : Nat := if types.isEmpty then 0 else 1

theorem mapM_ofJson? {types : List TypeName} (h : ∀ t ∈ types, Normal t) :
    (types.map toJson).mapM ofJson? = some types :=
  mapM_map_eq_pure fun t ht => parse?_canonical (h t ht)

theorem listOfJson?_array {types : List TypeName} (h : ∀ t ∈ types, Normal t) (room : Nat) :
    listOfJson? room (.array (types.map toJson)) = if 1 ≤ room then some types else none := by
  cases room with
  | zero => rfl
  | succ room => simp [listOfJson?, mapM_ofJson? h]

theorem listOfJson?_listField {types : List TypeName} (h : ∀ t ∈ types, Normal t) (room : Nat) :
    (listField types).elim (some []) (listOfJson? room) =
      if listNesting types ≤ room then some types else none := by
  cases types with
  | nil => simp [listField, listNesting]
  | cons t types => exact listOfJson?_array h room

theorem optionOfJson?_toJson {t : TypeName} (h : Normal t) :
    optionOfJson? t.toJson = some (some t) := by
  have hread : ofJson? t.toJson = some t := parse?_canonical h
  exact congrArg (Option.map some) hread

theorem nestingItems_map_toJson (types : List TypeName) :
    Json.nestingItems (types.map toJson) = 0 := by
  induction types with
  | nil => rfl
  | cons t types ih =>
    rw [List.map_cons, Json.nestingItems, ih]
    rfl

theorem nesting_listField (types : List TypeName) :
    (listField types).elim 0 Json.nesting = listNesting types := by
  unfold listField listNesting
  split
  · rfl
  · rw [Option.elim_some, Json.nesting, nestingItems_map_toJson]

theorem writable_map_toJson (types : List TypeName) :
    Json.Writable (.array (types.map toJson)) := by
  refine .array fun item hitem => ?_
  obtain ⟨t, -, rfl⟩ := List.mem_map.mp hitem
  exact .text t.canonical

theorem writable_listField {types : List TypeName} {value : Json}
    (h : listField types = some value) : value.Writable := by
  unfold listField at h
  split at h
  · simp at h
  · cases h
    exact writable_map_toJson types

end TypeName

namespace Constraints

def slots (c : Constraints) : List (String × Option Json) :=
  [("reference_type", some (.bool c.referenceType)), ("value_type", some (.bool c.valueType)),
    ("parameterless_constructor", some (.bool c.parameterlessConstructor)),
    ("constraint_types", some (.array (c.types.map TypeName.toJson)))]

theorem toJson_eq_present (c : Constraints) : c.toJson = .fields (Json.present c.slots) := rfl

theorem record_toJson (c : Constraints) :
    Json.record fieldNames c.toJson = some (c.slots.map Prod.snd) := by
  have hnodup : (c.slots.map Prod.fst).Nodup := by simp [slots]
  exact Json.record_present hnodup

theorem ofJson?_toJson {c : Constraints} (h : ∀ t ∈ c.types, t.Normal) (room : Nat) :
    ofJson? room c.toJson = if 2 ≤ room then some c else none := by
  cases room with
  | zero => rfl
  | succ room =>
    have hlist := TypeName.listOfJson?_array h room
    by_cases hroom : 1 ≤ room
    · rw [if_pos hroom] at hlist
      rw [if_pos (by omega)]
      simp [ofJson?, record_toJson, slots, Json.bool?, hlist]
    · rw [if_neg hroom] at hlist
      rw [if_neg (by omega)]
      simp [ofJson?, record_toJson, slots, Json.bool?, hlist]

theorem optionOfJson?_toJson {c : Constraints} (h : ∀ t ∈ c.types, t.Normal) (room : Nat) :
    optionOfJson? room c.toJson = if 2 ≤ room then some (some c) else none := by
  have hread : optionOfJson? room c.toJson = (ofJson? room c.toJson).map some := rfl
  rw [hread, ofJson?_toJson h]
  split <;> rfl

theorem nesting_toJson (c : Constraints) : c.toJson.nesting = 2 := by
  have htypes := TypeName.nestingItems_map_toJson c.types
  rw [toJson_eq_present, Json.fields, Json.nesting, Json.nestingMembers_present]
  simp [slots, Json.nesting, htypes]

theorem writable_toJson (c : Constraints) : Json.Writable c.toJson := by
  rw [toJson_eq_present]
  refine Json.writable_present fun slot hslot value hvalue => ?_
  simp only [slots, List.mem_cons, List.not_mem_nil, or_false] at hslot
  rcases hslot with rfl | rfl | rfl | rfl <;> cases hvalue
  · exact .bool _
  · exact .bool _
  · exact .bool _
  · exact TypeName.writable_map_toJson c.types

end Constraints

/-! ## Declarations -/

namespace Header

/-- All types a header names. -/
def types (h : Header) : List TypeName :=
  h.annotations ++ h.interfaces ++ h.base.toList ++ h.constraints.elim [] Constraints.types

/-- How many arrays and objects the form of a header opens inside the declaration. -/
def nesting (h : Header) : Nat :=
  max (max (TypeName.listNesting h.annotations) (TypeName.listNesting h.interfaces))
    (h.constraints.elim 0 fun _ => 2)

end Header

namespace Declaration

mutual

/-- All types named anywhere in a tree. -/
def types : Declaration → List TypeName
  | .node header children => header.types ++ typesAll children

def typesAll : List Declaration → List TypeName
  | [] => []
  | d :: ds => types d ++ typesAll ds

end

theorem types_node (header : Header) (children : List Declaration) :
    (node header children).types = header.types ++ children.flatMap types := by
  have hall : ∀ ds, typesAll ds = ds.flatMap types := by
    intro ds
    induction ds with
    | nil => rfl
    | cons d ds ih => rw [typesAll, ih, List.flatMap_cons]
  rw [types, hall]

theorem toJsonAll_eq_map (ds : List Declaration) : toJsonAll ds = ds.map toJson := by
  induction ds with
  | nil => rfl
  | cons d ds ih => rw [toJsonAll, ih, List.map_cons]

def childrenField (children : List Declaration) : Option Json :=
  if children.isEmpty then none else some (.array (children.map toJson))

def slots (h : Header) (children : List Declaration) : List (String × Option Json) :=
  [("kind", some (.text h.kind.tag)), ("name", some (.text h.name)),
    ("visibility", some (.text h.visibility.tag)),
    ("annotations", TypeName.listField h.annotations),
    ("interfaces", TypeName.listField h.interfaces), ("base", h.base.map TypeName.toJson),
    ("constraints", h.constraints.map Constraints.toJson),
    ("synthetic", if h.synthetic then some (.bool true) else none),
    ("children", childrenField children)]

theorem toJson_eq_present (header : Header) (children : List Declaration) :
    toJson (.node header children) = .fields (Json.present (slots header children)) := by
  have hlist : ∀ types (name : String), (if List.isEmpty types then []
      else [(name, Json.array (types.map TypeName.toJson))]) =
        ((TypeName.listField types).map fun v => (name, v)).toList := by
    intro types name
    unfold TypeName.listField
    split <;> rfl
  have hbase : (header.base.elim [] fun base => [("base", base.toJson)]) =
      ((header.base.map TypeName.toJson).map fun v => ("base", v)).toList := by
    cases header.base <;> rfl
  have hconstraints : (header.constraints.elim [] fun c => [("constraints", c.toJson)]) =
      ((header.constraints.map Constraints.toJson).map fun v => ("constraints", v)).toList := by
    cases header.constraints <;> rfl
  have hsynthetic : (if header.synthetic then [("synthetic", Json.bool true)] else []) =
      ((if header.synthetic then some (Json.bool true) else none).map
        fun v => ("synthetic", v)).toList := by
    cases header.synthetic <;> rfl
  have hchildren : (if children.isEmpty then []
      else [("children", Json.array (children.map toJson))]) =
        ((childrenField children).map fun v => ("children", v)).toList := by
    unfold childrenField
    split <;> rfl
  rw [toJson, headerMembers, toJsonAll_eq_map, hlist, hlist, hbase, hconstraints, hsynthetic,
    hchildren]
  simp [slots, Json.present]

theorem record_toJson (header : Header) (children : List Declaration) :
    Json.record fieldNames (toJson (.node header children)) =
      some ((slots header children).map Prod.snd) := by
  have hnodup : ((slots header children).map Prod.fst).Nodup := by simp [slots]
  rw [toJson_eq_present]
  exact Json.record_present hnodup

def childrenNesting (children : List Declaration) : Nat :=
  if children.isEmpty then 0 else 1 + Json.nestingItems (children.map toJson)

theorem nesting_toJson (header : Header) (children : List Declaration) :
    (toJson (.node header children)).nesting =
      1 + max header.nesting (childrenNesting children) := by
  have hbase : (header.base.map TypeName.toJson).elim 0 Json.nesting = 0 := by
    cases header.base <;> rfl
  have hconstraints : (header.constraints.map Constraints.toJson).elim 0 Json.nesting =
      header.constraints.elim 0 fun _ => 2 := by
    cases header.constraints with
    | none => rfl
    | some c => exact c.nesting_toJson
  have hsynthetic : (if header.synthetic then some (Json.bool true) else none).elim 0
      Json.nesting = 0 := by
    cases header.synthetic <;> rfl
  have hchildren : (childrenField children).elim 0 Json.nesting = childrenNesting children := by
    unfold childrenField childrenNesting
    split
    · rfl
    · rw [Option.elim_some, Json.nesting]
  have htext : ∀ s, (Json.text s).nesting = 0 := fun _ => rfl
  rw [toJson_eq_present, Json.fields, Json.nesting, Json.nestingMembers_present]
  simp only [slots, List.map_cons, List.map_nil, List.foldr_cons, List.foldr_nil, hbase,
    hconstraints, hsynthetic, hchildren, TypeName.nesting_listField, Option.elim_some, htext,
    Header.nesting, Nat.zero_max, Nat.max_zero, Nat.max_assoc]

theorem writable_toJson (d : Declaration) : d.toJson.Writable := by
  induction d using induction with
  | node header children ih =>
    rw [toJson_eq_present]
    refine Json.writable_present fun slot hslot value hvalue => ?_
    simp only [slots, List.mem_cons, List.not_mem_nil, or_false] at hslot
    rcases hslot with rfl | rfl | rfl | rfl | rfl | rfl | rfl | rfl | rfl
    · cases hvalue
      exact .text _
    · cases hvalue
      exact .text _
    · cases hvalue
      exact .text _
    · exact TypeName.writable_listField hvalue
    · exact TypeName.writable_listField hvalue
    · obtain ⟨t, -, rfl⟩ := Option.map_eq_some_iff.mp hvalue
      exact .text _
    · obtain ⟨c, -, rfl⟩ := Option.map_eq_some_iff.mp hvalue
      exact c.writable_toJson
    · obtain ⟨-, ⟨⟩⟩ := Option.ite_none_right_eq_some.mp hvalue
      exact .bool true
    · obtain ⟨-, ⟨⟩⟩ := Option.ite_none_left_eq_some.mp hvalue
      refine .array fun item hitem => ?_
      obtain ⟨c, hc, rfl⟩ := List.mem_map.mp hitem
      exact ih c hc

theorem headerOfFields?_slots {h : Header} (htypes : ∀ t ∈ h.types, t.Normal) (room : Nat) :
    headerOfFields? room (some (.text h.kind.tag)) (some (.text h.name))
        (some (.text h.visibility.tag)) (TypeName.listField h.annotations)
        (TypeName.listField h.interfaces) (h.base.map TypeName.toJson)
        (h.constraints.map Constraints.toJson)
        (if h.synthetic then some (.bool true) else none) =
      if h.nesting ≤ room then some h else none := by
  simp only [Header.types, List.mem_append] at htypes
  have hannotations := TypeName.listOfJson?_listField
    (fun t ht => htypes t (.inl (.inl (.inl ht)))) room
  have hinterfaces := TypeName.listOfJson?_listField
    (fun t ht => htypes t (.inl (.inl (.inr ht)))) room
  have hbase : (h.base.map TypeName.toJson).elim (some none) TypeName.optionOfJson? =
      some h.base := by
    cases hb : h.base with
    | none => rfl
    | some t => exact TypeName.optionOfJson?_toJson (htypes t (.inl (.inr (by simp [hb]))))
  have hconstraints : (h.constraints.map Constraints.toJson).elim (some none)
      (Constraints.optionOfJson? room) =
        if (h.constraints.elim 0 fun _ => 2) ≤ room then some h.constraints else none := by
    cases hc : h.constraints with
    | none => simp
    | some c =>
      exact Constraints.optionOfJson?_toJson (fun t ht => htypes t (.inr (by simpa [hc] using ht)))
        room
  have hsynthetic : (if h.synthetic then some (Json.bool true) else none).elim (some false)
      Json.bool? = some h.synthetic := by
    cases h.synthetic <;> rfl
  have hkind : Kind.ofJson? room (.text h.kind.tag) = some h.kind := Kind.ofTag?_tag h.kind
  have hvisibility : Accessibility.ofJson? room (.text h.visibility.tag) = some h.visibility :=
    Accessibility.ofTag?_tag h.visibility
  have hname : Json.text? (.text h.name) = some h.name := rfl
  have hnesting : h.nesting ≤ room ↔ (TypeName.listNesting h.annotations ≤ room ∧
      TypeName.listNesting h.interfaces ≤ room) ∧ (h.constraints.elim 0 fun _ => 2) ≤ room := by
    rw [Header.nesting, Nat.max_le, Nat.max_le]
  simp only [headerOfFields?, hkind, hname, hvisibility, hannotations, hinterfaces, hbase,
    hconstraints, hsynthetic, hnesting, Option.elim_some, Option.bind_eq_bind, Option.bind_some,
    Option.pure_def]
  by_cases hfirst : TypeName.listNesting h.annotations ≤ room
  · by_cases hsecond : TypeName.listNesting h.interfaces ≤ room
    · by_cases hthird : (h.constraints.elim 0 fun _ => 2) ≤ room
      · simp [hfirst, hsecond, hthird]
      · simp [hfirst, hsecond, hthird]
    · simp [hfirst, hsecond]
  · simp [hfirst]

theorem mapM_decode {room : Nat} {ds : List Declaration}
    (h : ∀ d ∈ ds, decode room d.toJson = if d.toJson.nesting ≤ room then some d else none) :
    (ds.map toJson).mapM (decode room) =
      if Json.nestingItems (ds.map toJson) ≤ room then some ds else none := by
  induction ds with
  | nil => simp [Json.nestingItems]
  | cons d ds ih =>
    have hd := h d (by simp)
    have hds := ih fun e he => h e (by simp [he])
    rw [List.map_cons, Json.nestingItems, List.mapM_cons, hd, hds]
    by_cases hfirst : d.toJson.nesting ≤ room
    · by_cases hrest : Json.nestingItems (ds.map toJson) ≤ room
      · simp [hfirst, hrest]
      · simp [hfirst, hrest]
    · simp [hfirst]

/-- The form of a tree is read as that tree, as long as there is room for what it nests. -/
theorem decode_toJson {d : Declaration} (h : ∀ t ∈ d.types, t.Normal) (room : Nat) :
    decode room d.toJson = if d.toJson.nesting ≤ room then some d else none := by
  induction d using induction generalizing room with
  | node header children ih =>
    simp only [types_node, List.mem_append, List.mem_flatMap] at h
    rw [nesting_toJson]
    cases room with
    | zero => rw [decode, if_neg (by omega)]
    | succ room =>
      have hheader := headerOfFields?_slots (fun t ht => h t (.inl ht)) room
      have hrecord := record_toJson header children
      have hnesting : 1 + max header.nesting (childrenNesting children) ≤ room + 1 ↔
          header.nesting ≤ room ∧ childrenNesting children ≤ room := by omega
      simp only [slots, List.map_cons, List.map_nil] at hrecord
      simp only [decode, hrecord, Option.bind_eq_bind, Option.bind_some, hheader, hnesting]
      by_cases hfirst : header.nesting ≤ room
      · simp only [hfirst, if_true, Option.bind_some, true_and]
        cases children with
        | nil => simp [childrenField, childrenNesting]
        | cons c cs =>
          cases room with
          | zero => simp [childrenField, childrenNesting]
          | succ room =>
            have hall := mapM_decode fun d hd =>
              ih d hd (fun t ht => h t (.inr ⟨d, hd, ht⟩)) room
            have hfield : childrenField (c :: cs) = some (.array ((c :: cs).map toJson)) := rfl
            have hcount : childrenNesting (c :: cs) ≤ room + 1 ↔
                Json.nestingItems ((c :: cs).map toJson) ≤ room := by
              rw [childrenNesting, List.isEmpty_cons, if_neg (by decide)]
              omega
            simp only [hfield, hall, hcount]
            split <;> rfl
      · simp [hfirst]

theorem ofText_toText {d : Declaration} (h : ∀ t ∈ d.types, t.Normal) :
    ofText d.toText =
      if Json.textNesting d.toText ≤ 127 then .ok d else .error .malformedJson := by
  have hwritable := d.writable_toJson
  rw [ofText, toText, Json.parse?_compact hwritable, Option.bind_some, decode_toJson h,
    Json.textNesting_compact hwritable, textRoom]
  by_cases hroom : d.toJson.nesting ≤ 127
  · simp [hroom]
  · simp [hroom]

/-- A tree whose types were all read comes back from its text, unless the text has too many arrays
and objects open at once. -/
theorem ofText_toText_iff {d : Declaration}
    (h : ∀ t ∈ d.types, ∃ text, TypeName.parse text = .ok t) :
    ((∃ e, ofText d.toText = .ok e) ↔ Json.textNesting d.toText ≤ 127) ∧
      ∀ e, ofText d.toText = .ok e → e = d := by
  have hnormal : ∀ t ∈ d.types, t.Normal := by
    intro t ht
    obtain ⟨text, htext⟩ := h t ht
    exact TypeName.normal_of_parse? (TypeName.parse_eq_ok.mp htext)
  rw [ofText_toText hnormal]
  by_cases hroom : Json.textNesting d.toText ≤ 127
  · simp [hroom]
  · simp [hroom]

/-- A generic class whose name needs escapes and whose types are nested ones. -/
def escapee : Declaration :=
  .node { kind := .class, name := "tab\t\"quote\" \\ \u0001 é 😀",
          visibility := .protectedOrInternal, annotations := [⟨"a.b", "c d", []⟩],
          base := some ⟨"", "Tuple", [⟨"", "é", []⟩]⟩ }
    [.typeParameter "T" { valueType := true, types := [⟨"..x", "y", [⟨"", "z", []⟩]⟩] }]

theorem ofText_toText_escapee :
    (∀ t ∈ escapee.types, ∃ text, TypeName.parse text = .ok t) ∧
      Json.textNesting escapee.toText = 5 ∧
      ((∃ e, ofText escapee.toText = .ok e) ↔ Json.textNesting escapee.toText ≤ 127) ∧
      ∀ e, ofText escapee.toText = .ok e → e = escapee := by
  have htypes : ∀ t ∈ escapee.types, ∃ text, TypeName.parse text = .ok t := by
    have hfirst : TypeName.parse " a::b . c\td" = .ok ⟨"a.b", "c d", []⟩ := by cbv
    have hsecond : TypeName.parse "(é)" = .ok ⟨"", "Tuple", [⟨"", "é", []⟩]⟩ := by cbv
    have hthird : TypeName.parse ". .x.y<z>" = .ok ⟨"..x", "y", [⟨"", "z", []⟩]⟩ := by cbv
    simp only [escapee, typeParameter, types_node, Header.types, List.flatMap_cons,
      List.flatMap_nil, Option.toList_some, Option.toList_none, Option.elim_some,
      Option.elim_none, List.nil_append, List.append_nil, List.cons_append, List.mem_cons,
      List.not_mem_nil, or_false]
    rintro t (rfl | rfl | rfl)
    · exact ⟨_, hfirst⟩
    · exact ⟨_, hsecond⟩
    · exact ⟨_, hthird⟩
  have hnesting : Json.textNesting escapee.toText = 5 := by
    rw [toText, Json.textNesting_compact escapee.writable_toJson]
    rfl
  exact ⟨htypes, hnesting, ofText_toText_iff htypes⟩

end Declaration

end DeclTree

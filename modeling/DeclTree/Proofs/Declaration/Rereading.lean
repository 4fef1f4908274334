import DeclTree.Proofs.Declaration.RoundTrip

/-!
# Trees that were read from a text

Whatever text a tree was read from, its own text is read again. Writing may nest deeper than what
was read, since constraints are always written with their list of types; but a declaration lies an
even number of arrays and objects deep, so with an odd number of them allowed there is room for the
list wherever there was room for the constraints.
-/

namespace DeclTree

namespace TypeName

theorem normal_of_ofJson? {json : Json} {t : TypeName} (h : ofJson? json = some t) : Normal t := by
  unfold ofJson? at h
  split at h
  · exact normal_of_parse? h
  · simp at h

theorem normal_of_listOfJson? {room : Nat} {field : Option Json} {types : List TypeName}
    (h : field.elim (some []) (listOfJson? room) = some types) :
    (∀ t ∈ types, Normal t) ∧ listNesting types ≤ room := by
  cases field with
  | none =>
    cases h
    simp [listNesting]
  | some json =>
    rw [Option.elim_some] at h
    unfold listOfJson? at h
    split at h
    · split at h
      · simp at h
      · rename_i hroom
        constructor
        · intro t ht
          obtain ⟨item, -, hitem⟩ := exists_of_mapM_eq_some h ht
          exact normal_of_ofJson? hitem
        · unfold listNesting
          split <;> omega
    · simp at h

theorem normal_of_optionOfJson? {field : Option Json} {type : Option TypeName}
    (h : field.elim (some none) optionOfJson? = some type) : ∀ t ∈ type, Normal t := by
  cases field with
  | none =>
    cases h
    simp
  | some json =>
    rw [Option.elim_some] at h
    unfold optionOfJson? at h
    split at h
    · cases h
      simp
    · obtain ⟨t, ht, rfl⟩ := Option.map_eq_some_iff.mp h
      simpa using normal_of_ofJson? ht

end TypeName

namespace Constraints

theorem normal_of_ofJson? {room : Nat} {json : Json} {c : Constraints}
    (h : ofJson? room json = some c) : (∀ t ∈ c.types, t.Normal) ∧ room ≠ 0 := by
  cases room with
  | zero => simp [ofJson?] at h
  | succ room =>
    refine ⟨?_, by omega⟩
    simp only [ofJson?, Option.bind_eq_bind, Option.bind_eq_some_iff] at h
    obtain ⟨fields, -, h⟩ := h
    split at h
    · simp only [Option.bind_eq_some_iff, Option.pure_def, Option.some.injEq] at h
      obtain ⟨_, -, _, -, _, -, types, htypes, rfl⟩ := h
      exact (TypeName.normal_of_listOfJson? htypes).1
    · simp at h

theorem normal_of_optionOfJson? {room : Nat} {field : Option Json}
    {constraints : Option Constraints}
    (h : field.elim (some none) (optionOfJson? room) = some constraints) :
    (∀ t ∈ constraints.elim [] types, t.Normal) ∧ (constraints ≠ none → room ≠ 0) := by
  cases field with
  | none =>
    cases h
    simp
  | some json =>
    rw [Option.elim_some] at h
    unfold optionOfJson? at h
    split at h
    · cases h
      simp
    · obtain ⟨c, hc, rfl⟩ := Option.map_eq_some_iff.mp h
      obtain ⟨hnormal, hroom⟩ := normal_of_ofJson? hc
      exact ⟨hnormal, fun _ => hroom⟩

end Constraints

namespace Declaration

theorem normal_of_headerOfFields? {room : Nat}
    {kind name visibility annotations interfaces base constraints synthetic : Option Json}
    {h : Header} (hread : headerOfFields? room kind name visibility annotations interfaces base
      constraints synthetic = some h) :
    (∀ t ∈ h.types, t.Normal) ∧ (room % 2 = 0 → h.nesting ≤ room) := by
  simp only [headerOfFields?, Option.bind_eq_bind, Option.bind_eq_some_iff, Option.pure_def,
    Option.some.injEq] at hread
  obtain ⟨_, -, _, -, _, -, _, -, _, -, as, has, is, his, b, hb, c, hc, _, -, rfl⟩ := hread
  obtain ⟨has, hasroom⟩ := TypeName.normal_of_listOfJson? has
  obtain ⟨his, hisroom⟩ := TypeName.normal_of_listOfJson? his
  have hb := TypeName.normal_of_optionOfJson? hb
  obtain ⟨hc, hcroom⟩ := Constraints.normal_of_optionOfJson? hc
  constructor
  · intro t ht
    simp only [Header.types, List.mem_append, Option.mem_toList] at ht
    rcases ht with ((ht | ht) | ht) | ht
    · exact has t ht
    · exact his t ht
    · exact hb t ht
    · exact hc t ht
  · intro heven
    -- An even number that is not zero leaves room for the list inside the constraints.
    have hconstraints : (c.elim 0 fun _ => 2) ≤ room := by
      cases c with
      | none => simp
      | some c =>
        have hne := hcroom (by simp)
        simp only [Option.elim_some]
        omega
    simp only [Header.nesting]
    omega

/-- A tree that was read has a header that was read, and each child was read on its own with two
arrays and objects fewer to open. -/
theorem parts_of_decode {room : Nat} {json : Json} {header : Header} {children : List Declaration}
    (h : decode (room + 1) json = some (.node header children)) :
    (∃ kind name visibility annotations interfaces base constraints synthetic,
      headerOfFields? room kind name visibility annotations interfaces base constraints
        synthetic = some header) ∧
    (children ≠ [] → ∃ inner, room = inner + 1 ∧
      ∀ c ∈ children, ∃ item, decode inner item = some c) := by
  simp only [decode, Option.bind_eq_bind, Option.bind_eq_some_iff] at h
  obtain ⟨fields, -, h⟩ := h
  split at h
  · obtain ⟨read, hheader, h⟩ := Option.bind_eq_some_iff.mp h
    split at h
    · cases h
      exact ⟨⟨_, _, _, _, _, _, _, _, hheader⟩, fun hne => absurd rfl hne⟩
    · split at h
      · simp at h
      · obtain ⟨ds, hds, heq⟩ := Option.bind_eq_some_iff.mp h
        cases heq
        refine ⟨⟨_, _, _, _, _, _, _, _, hheader⟩, fun _ => ⟨_, rfl, ?_⟩⟩
        intro c hc
        obtain ⟨item, -, hitem⟩ := exists_of_mapM_eq_some hds hc
        exact ⟨item, hitem⟩
    · simp at h
  · simp at h

theorem nestingItems_le {ds : List Declaration} {room : Nat}
    (h : ∀ d ∈ ds, d.toJson.nesting ≤ room) : Json.nestingItems (ds.map toJson) ≤ room := by
  induction ds with
  | nil => exact Nat.zero_le room
  | cons d ds ih =>
    have hd := h d (by simp)
    have hds := ih fun e he => h e (by simp [he])
    rw [List.map_cons, Json.nestingItems]
    omega

theorem normal_of_decode {room : Nat} {json : Json} {d : Declaration}
    (h : decode room json = some d) :
    (∀ t ∈ d.types, t.Normal) ∧ (room % 2 = 1 → d.toJson.nesting ≤ room) := by
  induction d using induction generalizing room json with
  | node header children ih =>
    cases room with
    | zero => simp [decode] at h
    | succ room =>
      obtain ⟨⟨_, _, _, _, _, _, _, _, hheader⟩, hchildren⟩ := parts_of_decode h
      obtain ⟨hnormal, hroom⟩ := normal_of_headerOfFields? hheader
      constructor
      · intro t ht
        rw [types_node, List.mem_append, List.mem_flatMap] at ht
        rcases ht with ht | ⟨c, hc, ht⟩
        · exact hnormal t ht
        · obtain ⟨inner, -, hread⟩ := hchildren (List.ne_nil_of_mem hc)
          obtain ⟨item, hitem⟩ := hread c hc
          exact (ih c hc hitem).1 t ht
      · intro hodd
        have hfirst := hroom (by omega)
        have hrest : childrenNesting children ≤ room := by
          by_cases hempty : children = []
          · simp [childrenNesting, hempty]
          · obtain ⟨inner, rfl, hread⟩ := hchildren hempty
            have hitems := nestingItems_le fun c hc => by
              obtain ⟨item, hitem⟩ := hread c hc
              exact (ih c hc hitem).2 (by omega)
            unfold childrenNesting
            split <;> omega
        rw [nesting_toJson]
        omega

/-- The text of a tree that was read, in whatever form, stays within the limit and is read as the
same tree. -/
theorem ofText_toText_of_ofText {text : String} {d : Declaration} (h : ofText text = .ok d) :
    Json.textNesting d.toText ≤ 127 ∧ ofText d.toText = .ok d := by
  have hdecode : ∃ json, decode textRoom json = some d := by
    unfold ofText at h
    split at h
    · rename_i read hread
      cases h
      obtain ⟨json, -, hjson⟩ := Option.bind_eq_some_iff.mp hread
      exact ⟨json, hjson⟩
    · simp at h
  obtain ⟨json, hjson⟩ := hdecode
  obtain ⟨hnormal, hroom⟩ := normal_of_decode hjson
  have hnesting : Json.textNesting d.toText ≤ 127 := by
    rw [toText, Json.textNesting_compact d.writable_toJson]
    exact hroom (by decide)
  rw [ofText_toText hnormal, if_pos hnesting]
  exact ⟨hnesting, rfl⟩

/-- An array for the declaration, an object for its kind, loose type names, a null, constraints that
name no field, and a child with its members out of order and an unknown one among them. -/
def handwritten : String :=
  "[\x7b\"struct\":null\x7d,\"B\\u006fx\",\"public\",[\" a::b\"],[\"(C)\"],null,\x7b\x7d,false," ++
    "[\x7b\"x\":[[-1.5]],\"name\":\"T\",\"kind\":\"typeparameter\"\x7d]]"

def handwrittenChild : Json :=
  .fields [("x", .array [.array [.number "-1.5"]]), ("name", .text "T"),
    ("kind", .text "typeparameter")]

def handwrittenForm : Json :=
  .array [.fields [("struct", .null)], .text "Box", .text "public", .array [.text " a::b"],
    .array [.text "(C)"], .null, .fields [], .bool false, .array [handwrittenChild]]

def box : Declaration :=
  .node { kind := .struct, name := "Box", visibility := .public,
          annotations := [⟨"a", "b", []⟩], interfaces := [⟨"", "Tuple", [⟨"", "C", []⟩]⟩],
          constraints := some {} }
    [.ofKind .typeParameter "T"]

theorem decode_handwrittenForm : decode textRoom handwrittenForm = some box := by
  have hinner : headerOfFields? 124 (some (.text "typeparameter")) (some (.text "T")) none none
      none none none none = some { kind := .typeParameter, name := "T" } := by cbv
  have hrecord : Json.record fieldNames handwrittenChild = some [some (.text "typeparameter"),
      some (.text "T"), none, none, none, none, none, none, none] := by cbv
  have hchild : decode 125 handwrittenChild = some (.ofKind .typeParameter "T") := by
    simp only [decode, hrecord, hinner, Option.bind_eq_bind, Option.bind_some, Option.pure_def,
      ofKind]
  have houter : headerOfFields? 126 (some (.fields [("struct", .null)])) (some (.text "Box"))
      (some (.text "public")) (some (.array [.text " a::b"])) (some (.array [.text "(C)"]))
      (some .null) (some (.fields [])) (some (.bool false)) = some box.header := by cbv
  simp [textRoom, decode, handwrittenForm, Json.record, fieldNames, houter, hchild, box]

theorem ofText_toText_box :
    ofText handwritten = .ok box ∧ Json.textNesting box.toText ≤ 127 ∧
      ofText box.toText = .ok box := by
  have hparse : Json.parse? handwritten = some handwrittenForm := by cbv
  have hread : ofText handwritten = .ok box := by
    rw [ofText, hparse, Option.bind_some, decode_handwrittenForm]
  exact ⟨hread, ofText_toText_of_ofText hread⟩

end Declaration

end DeclTree

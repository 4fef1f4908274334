import DeclTree.Json.Writer
import DeclTree.Proofs.Json.Grammar

/-!
# Written values are read back

A layout puts blanks between the tokens of a value: `gap n` before an item or member at level `n`
and before the bracket that closes level `n`, and `colon` behind the colon of a member. The compact
text is the layout without any blanks, and the pretty one has a new line as every gap. Whatever the
blanks are, a layout spells the value, so it is read back.
-/

namespace DeclTree.Json

/-! ## String literals -/

theorem hexValue?_hexDigit : ∀ n < 16, hexValue? (hexDigit n) = some n := by decide

theorem hex4?_control {n : Nat} (h : n < 0x20) :
    hex4? '0' '0' (hexDigit (n / 16)) (hexDigit (n % 16)) = some n := by
  have hzero : hexValue? '0' = some 0 := by decide
  have hhigh := hexValue?_hexDigit (n / 16) (by omega)
  have hlow := hexValue?_hexDigit (n % 16) (by omega)
  simp only [hex4?, hzero, hhigh, hlow, bind, pure, Option.bind_some, Option.some.injEq]
  omega

/-- A character is escaped by a letter, by its number, or not at all. -/
theorem escapeChar_cases (c : Char) :
    (∃ letter, escaped? letter = some c ∧ escapeChar c = ['\\', letter]) ∨
      (c.toNat < 0x20 ∧ escapeChar c =
        ['\\', 'u', '0', '0', hexDigit (c.toNat / 16), hexDigit (c.toNat % 16)]) ∨
      (c ≠ '"' ∧ c ≠ '\\' ∧ ¬ c.toNat < 0x20 ∧ escapeChar c = [c]) := by
  by_cases hshort : c ∈ ['"', '\\', '\x08', '\x0c', '\n', '\r', '\t']
  · left
    simp only [List.mem_cons, List.not_mem_nil, or_false] at hshort
    rcases hshort with rfl | rfl | rfl | rfl | rfl | rfl | rfl <;>
      exact ⟨_, by decide, rfl⟩
  · right
    simp only [List.mem_cons, List.not_mem_nil, or_false, not_or] at hshort
    by_cases hcontrol : c.toNat < 0x20
    · simp [escapeChar, hshort, hcontrol]
    · simp [escapeChar, hshort, hcontrol]

theorem Literal.escapeChar_append {cs : List Char} {units : List Nat} (h : Literal cs units)
    (c : Char) : Literal (escapeChar c ++ cs) (c.toNat :: units) := by
  rcases escapeChar_cases c with ⟨letter, hc, hescape⟩ | ⟨hcontrol, hescape⟩ |
    ⟨hquote, hbackslash, hcontrol, hescape⟩
  · rw [hescape]
    exact .letter hc h
  · rw [hescape]
    exact .number (hex4?_control hcontrol) h
  · rw [hescape]
    exact .plain hquote hbackslash (Nat.not_lt.mp hcontrol) h

theorem literal_flatMap (cs : List Char) :
    Literal (cs.flatMap escapeChar ++ ['"']) (cs.map Char.toNat) := by
  induction cs with
  | nil => exact .close
  | cons c cs ih =>
    rw [List.flatMap_cons, List.append_assoc]
    exact ih.escapeChar_append c

theorem not_surrogate (c : Char) :
    isHighSurrogate c.toNat = false ∧ isLowSurrogate c.toNat = false := by
  have hvalid : c.toNat < 0xD800 ∨ 0xDFFF < c.toNat ∧ c.toNat < 0x110000 := c.valid
  simp only [isHighSurrogate, isLowSurrogate, Bool.and_eq_false_iff, decide_eq_false_iff_not]
  omega

theorem decodeUnits_map_toNat (cs : List Char) : decodeUnits (cs.map Char.toNat) = some cs := by
  induction cs with
  | nil => rfl
  | cons c cs ih =>
    have hc := not_surrogate c
    cases cs with
    | nil => simp [decodeUnits, hc]
    | cons d cs =>
      rw [List.map_cons] at ih
      simp [decodeUnits, hc, ih]

theorem denoted_map_toNat (s : String) : denoted (s.toList.map Char.toNat) = some s := by
  rw [denoted, decodeUnits_map_toNat, Option.map_some, String.ofList_toList]

/-! ## Layouts -/

section

variable (gap : Nat → List Char) (colon : List Char)

mutual

/-- The text of a value that stands at a level. -/
def layout (level : Nat) : Json → List Char
  | .null => "null".toList
  | .bool value => (if value then "true" else "false").toList
  | .number text => text.toList
  | .string text => (quoteText text).toList
  | .array items =>
    '[' :: (layoutItems (level + 1) items ++
      (if items.isEmpty then [] else gap level) ++ [']'])
  | .object members =>
    '\x7b' :: (layoutMembers (level + 1) members ++
      (if members.isEmpty then [] else gap level) ++ ['\x7d'])

def layoutItems (level : Nat) : List Json → List Char
  | [] => []
  | item :: items =>
    gap level ++ layout level item ++
      (if items.isEmpty then [] else ',' :: layoutItems level items)

def layoutMembers (level : Nat) : List (Option String × Json) → List Char
  | [] => []
  | (name, value) :: members =>
    gap level ++ (quoteText name).toList ++ ':' :: (colon ++ layout level value) ++
      (if members.isEmpty then [] else ',' :: layoutMembers level members)

end

end

mutual

theorem toList_compact (level : Nat) (json : Json) :
    json.compact.toList = layout (fun _ => []) [] level json := by
  cases json with
  | null => rfl
  | bool value => rfl
  | number text => rfl
  | string text => rfl
  | array items => simp [compact, layout, toList_compactItems (level + 1) items]
  | object members => simp [compact, layout, toList_compactMembers (level + 1) members]

theorem toList_compactItems (level : Nat) (items : List Json) :
    (compactItems items).toList = layoutItems (fun _ => []) [] level items := by
  match items with
  | [] => rfl
  | [item] => simp [compactItems, layoutItems, toList_compact level item]
  | item :: next :: items =>
    have hmore := toList_compactItems level (next :: items)
    simp [compactItems, layoutItems, toList_compact level item, hmore]

theorem toList_compactMembers (level : Nat) (members : List (Option String × Json)) :
    (compactMembers members).toList = layoutMembers (fun _ => []) [] level members := by
  match members with
  | [] => rfl
  | [(name, value)] => simp [compactMembers, layoutMembers, toList_compact level value]
  | (name, value) :: next :: members =>
    have hmore := toList_compactMembers level (next :: members)
    simp [compactMembers, layoutMembers, toList_compact level value, hmore]

end

/-- The blanks of the layout with one item or member a line. -/
abbrev lineGap (level : Nat) : List Char := (newLine level).toList

mutual

theorem toList_prettyAt (level : Nat) (json : Json) :
    (prettyAt level json).toList = layout lineGap [' '] level json := by
  cases json with
  | null => rfl
  | bool value => rfl
  | number text => rfl
  | string text => rfl
  | array items =>
    cases items with
    | nil => simp [prettyAt, layout, layoutItems]
    | cons item items =>
      have hitems := toList_prettyItems (level + 1) (item :: items)
      simp [prettyAt, layout, hitems]
  | object members =>
    cases members with
    | nil => simp [prettyAt, layout, layoutMembers]
    | cons member members =>
      have hmembers := toList_prettyMembers (level + 1) (member :: members)
      simp [prettyAt, layout, hmembers]

theorem toList_prettyItems (level : Nat) (items : List Json) :
    (prettyItems level items).toList = layoutItems lineGap [' '] level items := by
  match items with
  | [] => rfl
  | [item] => simp [prettyItems, layoutItems, toList_prettyAt level item]
  | item :: next :: items =>
    have hmore := toList_prettyItems level (next :: items)
    simp [prettyItems, layoutItems, toList_prettyAt level item, hmore]

theorem toList_prettyMembers (level : Nat) (members : List (Option String × Json)) :
    (prettyMembers level members).toList = layoutMembers lineGap [' '] level members := by
  match members with
  | [] => rfl
  | [(name, value)] => simp [prettyMembers, layoutMembers, toList_prettyAt level value]
  | (name, value) :: next :: members =>
    have hmore := toList_prettyMembers level (next :: members)
    simp [prettyMembers, layoutMembers, toList_prettyAt level value, hmore]

end

/-! ## Spelling -/

/-- Values whose strings and member names denote texts and whose numbers are numerals. -/
inductive Writable : Json → Prop
  | null : Writable .null
  | bool (value : Bool) : Writable (.bool value)
  | number {digits : List Char} (h : Numeral digits) : Writable (.number (String.ofList digits))
  | text (s : String) : Writable (.text s)
  | array {items : List Json} (h : ∀ item ∈ items, Writable item) : Writable (.array items)
  | fields {members : List (String × Json)} (h : ∀ m ∈ members, Writable m.2) :
    Writable (.fields members)

theorem toList_quoteText (s : String) :
    (quoteText (some s)).toList = '"' :: (s.toList.flatMap escapeChar ++ ['"']) := by
  simp [quoteText, quote]

section

variable {gap : Nat → List Char} {colon : List Char}

theorem spells_layoutItems {items : List Json} (hgap : ∀ n, Blank (gap n)) (hne : items ≠ [])
    {level : Nat} (hitems : ∀ item ∈ items, Spells (layout gap colon level item) (.value item))
    {blanks : List Char} (hblanks : Blank blanks) :
    Spells (layoutItems gap colon level items ++ (blanks ++ [']'])) (.items items) := by
  induction items with
  | nil => exact absurd rfl hne
  | cons item items ih =>
    have hfirst := hitems item List.mem_cons_self
    by_cases hlast : items = []
    · subst hlast
      simpa [layoutItems] using Spells.items (hgap level) hfirst (.endItems hblanks)
    · have hmore := ih hlast fun i hi => hitems i (List.mem_cons_of_mem item hi)
      have hblank : Blank [] := by simp [Blank]
      simpa [layoutItems, hlast] using Spells.items (hgap level) hfirst (.nextItem hblank hmore)

theorem spells_layoutMembers {members : List (String × Json)} (hgap : ∀ n, Blank (gap n))
    (hcolon : Blank colon) (hne : members ≠ []) {level : Nat}
    (hmembers : ∀ m ∈ members, Spells (layout gap colon level m.2) (.value m.2))
    {blanks : List Char} (hblanks : Blank blanks) :
    Spells (layoutMembers gap colon level (members.map fun m => (some m.1, m.2)) ++
        (blanks ++ ['\x7d']))
      (.members (members.map fun m => (some m.1, m.2))) := by
  induction members with
  | nil => exact absurd rfl hne
  | cons member members ih =>
    obtain ⟨name, value⟩ := member
    have hfirst : Spells (layout gap colon level value) (.value value) :=
      hmembers (name, value) List.mem_cons_self
    have hname := literal_flatMap name.toList
    have hblank : Blank [] := by simp [Blank]
    by_cases hlast : members = []
    · subst hlast
      simpa [layoutMembers, toList_quoteText, denoted_map_toNat] using
        Spells.members (hgap level) hname hblank hcolon hfirst (.endMembers hblanks)
    · have hmore := ih hlast fun m hm => hmembers m (List.mem_cons_of_mem _ hm)
      simpa [layoutMembers, toList_quoteText, denoted_map_toNat, hlast] using
        Spells.members (hgap level) hname hblank hcolon hfirst (.nextMember hblank hmore)

/-- Every layout of a value with these blanks spells the value. -/
theorem Writable.spells {json : Json} (h : Writable json) (hgap : ∀ n, Blank (gap n))
    (hcolon : Blank colon) (level : Nat) :
    Spells (layout gap colon level json) (.value json) := by
  have hblank : Blank [] := by simp [Blank]
  induction h generalizing level with
  | null => exact .null
  | bool value =>
    cases value with
    | true => exact .bool_true
    | false => exact .bool_false
  | @number digits hdigits =>
    rw [layout, String.toList_ofList]
    have hnumber := Number.positive (.mk hdigits .absent .absent)
    rw [List.append_nil, List.append_nil] at hnumber
    exact .number hnumber
  | text s =>
    rw [Json.text, layout, toList_quoteText, ← denoted_map_toNat s]
    exact .string (literal_flatMap s.toList)
  | @array items hitems ih =>
    cases items with
    | nil => exact .emptyArray hblank
    | cons item items =>
      have hinside := spells_layoutItems hgap (by simp) (fun i hi => ih i hi (level + 1))
        (hgap level)
      simpa [layout] using Spells.array hinside
  | @fields members hmembers ih =>
    cases members with
    | nil => exact .emptyObject hblank
    | cons member members =>
      have hinside := spells_layoutMembers hgap hcolon (by simp) (fun m hm => ih m hm (level + 1))
        (hgap level)
      simpa [Json.fields, layout] using Spells.object hinside

end

theorem Writable.spelledBy_compact {json : Json} (h : Writable json) :
    SpelledBy json json.compact := by
  have hblank : Blank [] := by simp [Blank]
  refine ⟨[], _, [], hblank, h.spells (fun _ => hblank) hblank 0, hblank, ?_⟩
  rw [toList_compact 0]
  simp

/-- The compact text of a value is read as that value. -/
theorem parse?_compact {json : Json} (h : Writable json) : parse? json.compact = some json :=
  parse?_of_spelledBy h.spelledBy_compact

theorem blank_lineGap (level : Nat) : Blank (lineGap level) := by
  intro c hc
  simp only [lineGap, newLine, String.toList_append, String.toList_ofList, List.mem_append,
    List.mem_replicate] at hc
  rcases hc with hc | ⟨-, rfl⟩
  · obtain rfl := List.mem_singleton.mp hc
    decide
  · decide

/-- The text of a value with one item or member a line is read as that value. -/
theorem parse?_pretty {json : Json} (h : Writable json) : parse? json.pretty = some json := by
  have hcolon : Blank [' '] := by simp [Blank, isSpace]
  have htext : json.pretty.toList = layout lineGap [' '] 0 json := toList_prettyAt 0 json
  refine parse?_of_spelledBy ⟨[], _, [], by simp [Blank], h.spells blank_lineGap hcolon 0,
    by simp [Blank], ?_⟩
  rw [htext]
  simp

end DeclTree.Json

import DeclTree.Proofs.Json.Layout

/-!
# Nesting of a text

How many arrays and objects a text has open at its deepest place, counted along the text itself:
brackets and braces inside string literals do not count. For a layout of a value it is the nesting
of the value, whatever the blanks are.
-/

namespace DeclTree.Json

/-- Where a reader of a text is with respect to string literals. -/
inductive Position where
  | outside
  | inside
  /-- Behind a backslash. -/
  | escaped
deriving DecidableEq

namespace Position

def next : Position → Char → Position
  | .outside, c => if c = '"' then .inside else .outside
  | .inside, c => if c = '"' then .outside else if c = '\\' then .escaped else .inside
  | .escaped, _ => .inside

/-- How many arrays and objects are open behind a character. -/
def opened (level : Nat) : Position → Char → Nat
  | .outside, c =>
    if c = '[' || c = '\x7b' then level + 1
    else if c = ']' || c = '\x7d' then level - 1
    else level
  | _, _ => level

end Position

/-- The most that is open anywhere in a text, if `level` of them are open where it starts. -/
def deepest (position : Position) (level : Nat) : List Char → Nat
  | [] => level
  | c :: cs => max level (deepest (position.next c) (position.opened level c) cs)

def textNesting (text : String) : Nat := deepest .outside 0 text.toList

theorem le_deepest (position : Position) (level : Nat) (cs : List Char) :
    level ≤ deepest position level cs := by
  cases cs with
  | nil => exact Nat.le_refl level
  | cons c cs => exact Nat.le_max_left level _

theorem deepest_inside {c : Char} (hquote : c ≠ '"') (hbackslash : c ≠ '\\') (level : Nat)
    (cs : List Char) : deepest .inside level (c :: cs) = deepest .inside level cs := by
  have hle := le_deepest .inside level cs
  simp [deepest, Position.next, Position.opened, hquote, hbackslash, hle]

/-- A character that neither opens nor closes anything. -/
def isNeutral (c : Char) : Bool := c ∉ ['"', '[', ']', '\x7b', '\x7d']

theorem deepest_outside {c : Char} (h : isNeutral c = true) (level : Nat) (cs : List Char) :
    deepest .outside level (c :: cs) = deepest .outside level cs := by
  have hle := le_deepest .outside level cs
  have hc : c ≠ '"' ∧ c ≠ '[' ∧ c ≠ ']' ∧ c ≠ '\x7b' ∧ c ≠ '\x7d' := by simpa [isNeutral] using h
  simp [deepest, Position.next, Position.opened, hc, hle]

theorem deepest_neutral {cs : List Char} (h : ∀ c ∈ cs, isNeutral c = true) (level : Nat)
    (rest : List Char) : deepest .outside level (cs ++ rest) = deepest .outside level rest := by
  induction cs with
  | nil => rfl
  | cons c cs ih =>
    rw [List.cons_append, deepest_outside (h c (by simp)), ih fun d hd => h d (by simp [hd])]

theorem hexDigit_plain : ∀ n < 16, hexDigit n ≠ '"' ∧ hexDigit n ≠ '\\' := by decide

theorem deepest_escapeChar (c : Char) (level : Nat) (rest : List Char) :
    deepest .inside level (escapeChar c ++ rest) = deepest .inside level rest := by
  have hle := le_deepest .inside level rest
  rcases escapeChar_cases c with ⟨letter, -, hescape⟩ | ⟨hcontrol, hescape⟩ |
    ⟨hquote, hbackslash, -, hescape⟩
  · simp [hescape, deepest, Position.next, Position.opened, hle]
  · have hhigh := hexDigit_plain (c.toNat / 16) (by omega)
    have hlow := hexDigit_plain (c.toNat % 16) (by omega)
    simp [hescape, deepest, Position.next, Position.opened, hhigh, hlow, hle]
  · rw [hescape, List.cons_append, List.nil_append, deepest_inside hquote hbackslash]

theorem deepest_quoteText (s : String) (level : Nat) (rest : List Char) :
    deepest .outside level ((quoteText (some s)).toList ++ rest) =
      deepest .outside level rest := by
  have hinside : ∀ cs : List Char,
      deepest .inside level (cs.flatMap escapeChar ++ '"' :: rest) =
        deepest .outside level rest := by
    intro cs
    induction cs with
    | nil => simp [deepest, Position.next, Position.opened, le_deepest]
    | cons c cs ih => rw [List.flatMap_cons, List.append_assoc, deepest_escapeChar, ih]
  have hopen := hinside s.toList
  simp only [toList_quoteText, List.cons_append, List.append_assoc, List.nil_append, deepest,
    Position.next, Position.opened]
  simp [hopen, le_deepest]

section

variable {gap : Nat → List Char} {colon : List Char}

theorem isNeutral_of_isSpace {c : Char} (h : isSpace c = true) : isNeutral c = true := by
  simp only [isSpace, Bool.or_eq_true, beq_iff_eq] at h
  rcases h with ((rfl | rfl) | rfl) | rfl <;> decide

theorem deepest_blank {blanks : List Char} (h : Blank blanks) (level : Nat) (rest : List Char) :
    deepest .outside level (blanks ++ rest) = deepest .outside level rest :=
  deepest_neutral (fun c hc => isNeutral_of_isSpace (h c hc)) level rest

def CountsAs (gap : Nat → List Char) (colon : List Char) (json : Json) : Prop :=
  ∀ level opened rest, deepest .outside opened (layout gap colon level json ++ rest) =
    max (opened + json.nesting) (deepest .outside opened rest)

theorem deepest_layoutItems {items : List Json} (hgap : ∀ n, Blank (gap n))
    (hitems : ∀ item ∈ items, CountsAs gap colon item) (level opened : Nat) (rest : List Char) :
    deepest .outside opened (layoutItems gap colon level items ++ rest) =
      max (opened + nestingItems items) (deepest .outside opened rest) := by
  have hle := le_deepest .outside opened rest
  induction items with
  | nil =>
    simp only [layoutItems, nestingItems, List.nil_append]
    omega
  | cons item items ih =>
    have hitem := hitems item (by simp) level opened
    by_cases hlast : items = []
    · subst hlast
      simp only [layoutItems, List.isEmpty_nil, if_true, List.append_nil, List.append_assoc,
        deepest_blank (hgap level), hitem, nestingItems]
      omega
    · have hmore := ih fun i hi => hitems i (by simp [hi])
      simp only [layoutItems, List.isEmpty_iff, hlast, if_false, List.append_assoc,
        List.cons_append, deepest_blank (hgap level), hitem, nestingItems]
      rw [deepest_outside (by decide), hmore]
      omega

theorem deepest_layoutMembers {members : List (String × Json)} (hgap : ∀ n, Blank (gap n))
    (hcolon : Blank colon) (hmembers : ∀ m ∈ members, CountsAs gap colon m.2)
    (level opened : Nat) (rest : List Char) :
    deepest .outside opened (layoutMembers gap colon level
        (members.map fun m => (some m.1, m.2)) ++ rest) =
      max (opened + nestingMembers (members.map fun m => (some m.1, m.2)))
        (deepest .outside opened rest) := by
  have hle := le_deepest .outside opened rest
  have hneutral : isNeutral ':' = true := by decide
  induction members with
  | nil =>
    simp only [List.map_nil, layoutMembers, nestingMembers, List.nil_append]
    omega
  | cons member members ih =>
    obtain ⟨name, value⟩ := member
    have hvalue : CountsAs gap colon value := hmembers (name, value) (by simp)
    have hcount := hvalue level opened
    by_cases hlast : members = []
    · subst hlast
      simp only [List.map_cons, List.map_nil, layoutMembers, List.isEmpty_nil, if_true,
        List.append_nil, List.append_assoc, List.cons_append, deepest_blank (hgap level),
        deepest_quoteText, deepest_outside hneutral, deepest_blank hcolon, hcount, nestingMembers]
      omega
    · have hmore := ih fun m hm => hmembers m (by simp [hm])
      simp only [List.map_cons, layoutMembers, List.isEmpty_iff, List.map_eq_nil_iff, hlast,
        if_false, List.append_assoc, List.cons_append, deepest_blank (hgap level),
        deepest_quoteText, deepest_outside hneutral, deepest_blank hcolon, hcount, nestingMembers]
      rw [deepest_outside (by decide), hmore]
      omega

/-- What a bracket or brace opens is closed again by its counterpart. -/
theorem deepest_enclosed {left right : Char} (hleft : left = '[' ∨ left = '\x7b')
    (hright : right = ']' ∨ right = '\x7d') {inner : List Char} {nesting opened : Nat}
    (hinner : ∀ rest, deepest .outside (opened + 1) (inner ++ rest) =
      max (opened + 1 + nesting) (deepest .outside (opened + 1) rest)) (rest : List Char) :
    deepest .outside opened (left :: (inner ++ right :: rest)) =
      max (opened + (1 + nesting)) (deepest .outside opened rest) := by
  have hle := le_deepest .outside opened rest
  have hopen : ∀ cs, deepest .outside opened (left :: cs) =
      max opened (deepest .outside (opened + 1) cs) := by
    intro cs
    rcases hleft with rfl | rfl <;> rfl
  have hclose : deepest .outside (opened + 1) (right :: rest) =
      max (opened + 1) (deepest .outside opened rest) := by
    rcases hright with rfl | rfl <;> rfl
  rw [hopen, hinner, hclose]
  omega

theorem countsAs_neutral {json : Json} (hnesting : json.nesting = 0)
    (h : ∀ level, ∀ c ∈ layout gap colon level json, isNeutral c = true) :
    CountsAs gap colon json := by
  intro level opened rest
  have hle := le_deepest .outside opened rest
  rw [deepest_neutral (h level), hnesting]
  omega

theorem Writable.countsAs {json : Json} (h : Writable json) (hgap : ∀ n, Blank (gap n))
    (hcolon : Blank colon) : CountsAs gap colon json := by
  have hblank : ∀ (empty : Bool) n, Blank (if empty then [] else gap n) := by
    intro empty n
    cases empty with
    | true => simp [Blank]
    | false => exact hgap n
  induction h with
  | null =>
    refine countsAs_neutral rfl fun level => ?_
    simp [layout, isNeutral]
  | bool value =>
    refine countsAs_neutral rfl fun level => ?_
    cases value <;> simp [layout, isNeutral]
  | @number digits hdigits =>
    refine countsAs_neutral rfl fun level c hc => ?_
    rw [layout, String.toList_ofList] at hc
    have hdigit := hdigits.isDigit c hc
    simp only [isNeutral, List.mem_cons, List.not_mem_nil, or_false, decide_eq_true_eq]
    rintro (rfl | rfl | rfl | rfl | rfl) <;> exact absurd hdigit (by decide)
  | text s =>
    intro level opened rest
    have hle := le_deepest .outside opened rest
    have hnesting : (Json.text s).nesting = 0 := rfl
    rw [hnesting, Json.text, layout, deepest_quoteText]
    omega
  | @array items hitems ih =>
    intro level opened rest
    simp only [layout, nesting, List.cons_append, List.append_assoc, List.nil_append]
    rw [← List.append_assoc]
    refine deepest_enclosed (.inl rfl) (.inl rfl) (fun rest => ?_) rest
    rw [List.append_assoc, deepest_layoutItems hgap ih, deepest_blank (hblank _ _)]
  | @fields members hmembers ih =>
    intro level opened rest
    simp only [Json.fields, layout, nesting, List.cons_append, List.append_assoc, List.nil_append]
    rw [← List.append_assoc]
    refine deepest_enclosed (.inr rfl) (.inr rfl) (fun rest => ?_) rest
    rw [List.append_assoc, deepest_layoutMembers hgap hcolon ih, deepest_blank (hblank _ _)]

end

/-- The compact text of a value nests as deep as the value. -/
theorem textNesting_compact {json : Json} (h : Writable json) :
    textNesting json.compact = json.nesting := by
  have hblank : Blank [] := by simp [Blank]
  have hcount := h.countsAs (fun _ => hblank) hblank 0 0 []
  rw [List.append_nil, ← toList_compact 0 json] at hcount
  simpa [textNesting, deepest] using hcount

end DeclTree.Json

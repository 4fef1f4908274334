import DeclTree.Json.Reader
import Mathlib.Data.List.DropRight
import Mathlib.Data.List.TakeDrop

/-!
# The grammar of JSON texts

What a text may be made of, apart from how it is read: blanks between the tokens, string literals
with their escapes, numbers with a fraction and an exponent, and arrays and objects of any depth. A
text that spells a value is read as that value, and the reader never runs out of steps on it.
-/

namespace DeclTree.Json

/-! ## Blanks -/

def Blank (cs : List Char) : Prop := ∀ c ∈ cs, isSpace c = true

theorem Blank.append {front back : List Char} (hfront : Blank front) (hback : Blank back) :
    Blank (front ++ back) := List.forall_mem_append.mpr ⟨hfront, hback⟩

theorem skipSpace_blank {blanks : List Char} (h : Blank blanks) (rest : List Char) :
    skipSpace (blanks ++ rest) = skipSpace rest := List.dropWhile_append_of_pos h

theorem skipSpace_cons {c : Char} (h : isSpace c = false) (rest : List Char) :
    skipSpace (c :: rest) = c :: rest := by simp [skipSpace, h]

theorem skipSpace_blank_cons {blanks : List Char} (h : Blank blanks) {c : Char}
    (hc : isSpace c = false) (rest : List Char) : skipSpace (blanks ++ c :: rest) = c :: rest := by
  rw [skipSpace_blank h, skipSpace_cons hc]

theorem skipSpace_skipSpace (cs : List Char) : skipSpace (skipSpace cs) = skipSpace cs := by
  simp only [skipSpace, List.dropWhile_idempotent]

theorem readValue_skipSpace (fuel : Nat) (cs : List Char) :
    readValue fuel (skipSpace cs) = readValue fuel cs := by
  cases fuel with
  | zero => simp only [readValue]
  | succ fuel => simp only [readValue, skipSpace_skipSpace]

theorem readValue_blank {blanks : List Char} (h : Blank blanks) (fuel : Nat) (rest : List Char) :
    readValue fuel (blanks ++ rest) = readValue fuel rest := by
  rw [← readValue_skipSpace, skipSpace_blank h, readValue_skipSpace]

theorem readItems_skipSpace (fuel : Nat) (cs : List Char) :
    readItems fuel (skipSpace cs) = readItems fuel cs := by
  cases fuel with
  | zero => simp only [readItems]
  | succ fuel => simp only [readItems, readValue_skipSpace]

theorem readMembers_skipSpace (fuel : Nat) (cs : List Char) :
    readMembers fuel (skipSpace cs) = readMembers fuel cs := by
  cases fuel with
  | zero => simp only [readMembers]
  | succ fuel => simp only [readMembers, skipSpace_skipSpace]

/-! ## String literals -/

/-- What stands behind the opening quote of a literal, through the closing one, with the code points
and code units it stands for. -/
inductive Literal : List Char → List Nat → Prop
  | close : Literal ['"'] []
  | plain {c : Char} {cs : List Char} {units : List Nat} (hquote : c ≠ '"') (hbackslash : c ≠ '\\')
      (hcontrol : 0x20 ≤ c.toNat) (more : Literal cs units) : Literal (c :: cs) (c.toNat :: units)
  | letter {letter c : Char} {cs : List Char} {units : List Nat}
      (hletter : escaped? letter = some c) (more : Literal cs units) :
      Literal ('\\' :: letter :: cs) (c.toNat :: units)
  | number {a b c d : Char} {unit : Nat} {cs : List Char} {units : List Nat}
      (hunit : hex4? a b c d = some unit) (more : Literal cs units) :
      Literal ('\\' :: 'u' :: a :: b :: c :: d :: cs) (unit :: units)

theorem Literal.readUnits_append {cs : List Char} {units : List Nat} (h : Literal cs units)
    (rest : List Char) : readUnits (cs ++ rest) = some (units, rest) := by
  induction h with
  | close => rw [List.singleton_append, readUnits] <;> simp
  | plain hquote hbackslash hcontrol _ ih =>
    rw [List.cons_append, readUnits]
    · simp [hquote, hbackslash, hcontrol, ih]
    · rintro a b c d rest' rfl
      exact absurd rfl hbackslash
    · rintro c' rest' rfl
      exact absurd rfl hbackslash
  | letter hletter _ ih =>
    rw [List.cons_append, List.cons_append, readUnits]
    · simp [hletter, ih]
    · rintro a b c d rest' rfl
      have hnone : escaped? 'u' = none := by decide
      simp [hnone] at hletter
  | number hunit _ ih =>
    simp only [List.cons_append]
    rw [readUnits, hunit, ih]
    rfl

/-- The text that a literal denotes, if it denotes one. -/
def denoted (units : List Nat) : Option String := (decodeUnits units).map String.ofList

theorem Literal.readString_append {cs : List Char} {units : List Nat} (h : Literal cs units)
    (rest : List Char) : readString (cs ++ rest) = some (denoted units, rest) := by
  rw [readString, h.readUnits_append]
  rfl

/-! ## Numbers -/

/-- One or more digits. -/
structure Digits (digits : List Char) : Prop where
  ne_nil : digits ≠ []
  isDigit : ∀ c ∈ digits, Json.isDigit c = true

/-- A natural number in digits, as a text spells it. -/
structure Numeral (digits : List Char) : Prop extends Digits digits where
  zero : digits.head? = some '0' → digits = ['0']

inductive Fraction : List Char → Prop
  | absent : Fraction []
  | digits {digits : List Char} (h : Digits digits) : Fraction ('.' :: digits)

inductive Exponent : List Char → Prop
  | absent : Exponent []
  | unsigned {e : Char} {digits : List Char} (he : e = 'e' ∨ e = 'E') (h : Digits digits) :
      Exponent (e :: digits)
  | signed {e sign : Char} {digits : List Char} (he : e = 'e' ∨ e = 'E')
      (hsign : sign = '+' ∨ sign = '-') (h : Digits digits) : Exponent (e :: sign :: digits)

inductive Unsigned : List Char → Prop
  | mk {integer fraction exponent : List Char} (hinteger : Numeral integer)
      (hfraction : Fraction fraction) (hexponent : Exponent exponent) :
      Unsigned (integer ++ (fraction ++ exponent))

inductive Number : List Char → Prop
  | positive {cs : List Char} (h : Unsigned cs) : Number cs
  | negative {cs : List Char} (h : Unsigned cs) : Number ('-' :: cs)

/-- Nothing that could belong to a number in front of it. -/
def Ends (rest : List Char) : Prop :=
  ∀ c ∈ rest.head?, isDigit c = false ∧ c ≠ '.' ∧ c ≠ 'e' ∧ c ≠ 'E'

@[simp] theorem ends_nil : Ends [] := by simp [Ends]

@[simp] theorem ends_cons (c : Char) (rest : List Char) :
    Ends (c :: rest) ↔ isDigit c = false ∧ c ≠ '.' ∧ c ≠ 'e' ∧ c ≠ 'E' := by simp [Ends]

theorem ends_blank {blanks : List Char} (h : Blank blanks) {rest : List Char} (hrest : Ends rest) :
    Ends (blanks ++ rest) := by
  cases blanks with
  | nil => exact hrest
  | cons c blanks =>
    have hc : isSpace c = true := h c (by simp)
    simp only [isSpace, Bool.or_eq_true, beq_iff_eq] at hc
    rw [List.cons_append, ends_cons]
    rcases hc with ((rfl | rfl) | rfl) | rfl <;> decide

theorem Digits.exists_cons {digits : List Char} (h : Digits digits) :
    ∃ c cs, digits = c :: cs ∧ Json.isDigit c = true := by
  obtain ⟨c, cs, rfl⟩ := List.exists_cons_of_ne_nil h.ne_nil
  exact ⟨c, cs, rfl, h.isDigit c List.mem_cons_self⟩

theorem readDigits_append {digits rest : List Char} (h : Digits digits)
    (hrest : ∀ c ∈ rest.head?, isDigit c = false) :
    readDigits (digits ++ rest) = some (digits, rest) := by
  have hspan : (digits ++ rest).span isDigit = (digits, rest) := by
    rw [List.span_eq_takeWhile_dropWhile, List.takeWhile_append_of_pos h.isDigit,
      List.dropWhile_append_of_pos h.isDigit]
    cases rest with
    | nil => simp
    | cons c rest => simp [hrest c rfl]
  rw [readDigits, hspan]
  simp [h.ne_nil]

theorem readInteger_append {digits rest : List Char} (h : Numeral digits)
    (hrest : ∀ c ∈ rest.head?, isDigit c = false) :
    readInteger (digits ++ rest) = some (digits, rest) := by
  by_cases hzero : digits.head? = some '0'
  · rw [h.zero hzero]
    cases rest with
    | nil => rfl
    | cons c rest => simp [readInteger, hrest c rfl]
  · rw [readInteger, readDigits_append h.toDigits hrest]
    rintro rest' heq
    obtain ⟨c, cs, rfl, -⟩ := h.toDigits.exists_cons
    cases heq
    exact hzero rfl

theorem readFraction_append {fraction rest : List Char} (h : Fraction fraction)
    (hrest : ∀ c ∈ rest.head?, isDigit c = false ∧ c ≠ '.') :
    readFraction (fraction ++ rest) = some (fraction, rest) := by
  cases h with
  | absent =>
    rw [List.nil_append, readFraction]
    rintro rest' rfl
    exact (hrest '.' rfl).2 rfl
  | digits h =>
    rw [List.cons_append, readFraction, readDigits_append h fun c hc => (hrest c hc).1]
    rfl

theorem readExponent_append {exponent rest : List Char} (h : Exponent exponent)
    (hrest : Ends rest) : readExponent (exponent ++ rest) = some (exponent, rest) := by
  have hdigit : ∀ c ∈ rest.head?, isDigit c = false := fun c hc => (hrest c hc).1
  cases h with
  | absent =>
    cases rest with
    | nil => rfl
    | cons c rest =>
      rw [ends_cons] at hrest
      simp [readExponent, hrest]
  | unsigned he h =>
    obtain ⟨c, cs, rfl, hc⟩ := h.exists_cons
    have hsign : ¬(c = '+' ∨ c = '-') := by rintro (rfl | rfl) <;> exact absurd hc (by decide)
    have hread := readDigits_append h hdigit
    rw [List.cons_append] at hread
    simp [readExponent, he, hsign, hread]
  | signed he hsign h => simp [readExponent, he, hsign, readDigits_append h hdigit]

theorem Exponent.head {exponent rest : List Char} (h : Exponent exponent) (hrest : Ends rest) :
    ∀ c ∈ (exponent ++ rest).head?, isDigit c = false ∧ c ≠ '.' := by
  cases h with
  | absent => exact fun c hc => ⟨(hrest c hc).1, (hrest c hc).2.1⟩
  | unsigned he =>
    intro c hc
    cases hc
    rcases he with rfl | rfl <;> decide
  | signed he =>
    intro c hc
    cases hc
    rcases he with rfl | rfl <;> decide

theorem Fraction.head {fraction rest : List Char} (h : Fraction fraction)
    (hrest : ∀ c ∈ rest.head?, isDigit c = false ∧ c ≠ '.') :
    ∀ c ∈ (fraction ++ rest).head?, isDigit c = false := by
  cases h with
  | absent => exact fun c hc => (hrest c hc).1
  | digits =>
    intro c hc
    cases hc
    decide

theorem Unsigned.readUnsigned_append {cs rest : List Char} (h : Unsigned cs) (hrest : Ends rest) :
    readUnsigned (cs ++ rest) = some (cs, rest) := by
  obtain ⟨hinteger, hfraction, hexponent⟩ := h
  have hexponentHead := hexponent.head hrest
  have hfractionHead := hfraction.head hexponentHead
  simp [readUnsigned, readInteger_append hinteger hfractionHead,
    readFraction_append hfraction hexponentHead, readExponent_append hexponent hrest]

theorem Unsigned.exists_cons {cs : List Char} (h : Unsigned cs) :
    ∃ c rest, cs = c :: rest ∧ isDigit c = true := by
  obtain ⟨hinteger, -, -⟩ := h
  obtain ⟨c, rest, rfl, hc⟩ := hinteger.toDigits.exists_cons
  exact ⟨c, _, List.cons_append, hc⟩

theorem Number.exists_cons {cs : List Char} (h : Number cs) :
    ∃ c rest, cs = c :: rest ∧ (c = '-' ∨ isDigit c = true) := by
  cases h with
  | positive h =>
    obtain ⟨c, rest, rfl, hc⟩ := h.exists_cons
    exact ⟨c, rest, rfl, .inr hc⟩
  | negative h => exact ⟨'-', _, rfl, .inl rfl⟩

theorem Number.readNumber_append {cs rest : List Char} (h : Number cs) (hrest : Ends rest) :
    readNumber (cs ++ rest) = some (cs, rest) := by
  cases h with
  | positive h =>
    rw [readNumber, h.readUnsigned_append hrest]
    intro rest' heq
    obtain ⟨c, cs, rfl, hc⟩ := h.exists_cons
    cases heq
    exact absurd hc (by decide)
  | negative h =>
    rw [List.cons_append, readNumber, h.readUnsigned_append hrest]
    rfl

/-! ## Values -/

/-- What a part of a text may stand for: a value, the items of an array or the members of an object
through the closing bracket, or what is left of them behind the first one. -/
inductive Piece where
  | value (json : Json)
  | items (items : List Json)
  | moreItems (items : List Json)
  | members (members : List (Option String × Json))
  | moreMembers (members : List (Option String × Json))

/-- A text spells a piece. A value has no blanks around it. -/
inductive Spells : List Char → Piece → Prop
  | null : Spells ['n', 'u', 'l', 'l'] (.value .null)
  | bool_true : Spells ['t', 'r', 'u', 'e'] (.value (.bool true))
  | bool_false : Spells ['f', 'a', 'l', 's', 'e'] (.value (.bool false))
  | number {cs : List Char} (h : Number cs) : Spells cs (.value (.number (String.ofList cs)))
  | string {cs : List Char} {units : List Nat} (h : Literal cs units) :
      Spells ('"' :: cs) (.value (.string (denoted units)))
  | emptyArray {blanks : List Char} (inside : Blank blanks) :
      Spells ('[' :: (blanks ++ [']'])) (.value (.array []))
  | array {cs : List Char} {items : List Json} (inside : Spells cs (.items items)) :
      Spells ('[' :: cs) (.value (.array items))
  | emptyObject {blanks : List Char} (inside : Blank blanks) :
      Spells ('\x7b' :: (blanks ++ ['\x7d'])) (.value (.object []))
  | object {cs : List Char} {members : List (Option String × Json)}
      (inside : Spells cs (.members members)) : Spells ('\x7b' :: cs) (.value (.object members))
  | items {front cs tail : List Char} {item : Json} {items : List Json} (hfront : Blank front)
      (first : Spells cs (.value item)) (more : Spells tail (.moreItems items)) :
      Spells (front ++ (cs ++ tail)) (.items (item :: items))
  | endItems {blanks : List Char} (front : Blank blanks) :
      Spells (blanks ++ [']']) (.moreItems [])
  | nextItem {blanks cs : List Char} {items : List Json} (front : Blank blanks)
      (next : Spells cs (.items items)) : Spells (blanks ++ ',' :: cs) (.moreItems items)
  | members {front name before after cs tail : List Char} {units : List Nat} {value : Json}
      {members : List (Option String × Json)} (hfront : Blank front) (hname : Literal name units)
      (hbefore : Blank before) (hafter : Blank after) (first : Spells cs (.value value))
      (more : Spells tail (.moreMembers members)) :
      Spells (front ++ '"' :: (name ++ (before ++ ':' :: (after ++ (cs ++ tail)))))
        (.members ((denoted units, value) :: members))
  | endMembers {blanks : List Char} (front : Blank blanks) :
      Spells (blanks ++ ['\x7d']) (.moreMembers [])
  | nextMember {blanks cs : List Char} {members : List (Option String × Json)}
      (front : Blank blanks) (next : Spells cs (.members members)) :
      Spells (blanks ++ ',' :: cs) (.moreMembers members)

/-- A text spells a value, with blanks around it. -/
def SpelledBy (json : Json) (text : String) : Prop :=
  ∃ front cs back, Blank front ∧ Spells cs (.value json) ∧ Blank back ∧
    text.toList = front ++ (cs ++ back)

/-! ## Reading -/

/-- Reads what is left of the items of an array behind one of them. -/
def readMoreItems (fuel : Nat) (cs : List Char) : Option (List Json × List Char) :=
  match skipSpace cs with
  | ',' :: rest => readItems fuel rest
  | ']' :: rest => some ([], rest)
  | _ => none

theorem readItems_succ (fuel : Nat) (cs : List Char) :
    readItems (fuel + 1) cs =
      (readValue fuel cs).bind fun first =>
        (readMoreItems fuel first.2).map fun more => (first.1 :: more.1, more.2) := by
  rw [readItems]
  cases readValue fuel cs with
  | none => rfl
  | some first =>
    simp only [Option.bind_eq_bind, Option.bind_some, readMoreItems]
    generalize skipSpace first.2 = behind
    split
    · rename_i rest
      show (readItems fuel rest).bind _ = (readItems fuel rest).map _
      cases readItems fuel rest <;> rfl
    · rfl
    · simp [*]

/-- Reads what is left of the members of an object behind one of them. -/
def readMoreMembers (fuel : Nat) (cs : List Char) :
    Option (List (Option String × Json) × List Char) :=
  match skipSpace cs with
  | ',' :: rest => readMembers fuel rest
  | '\x7d' :: rest => some ([], rest)
  | _ => none

/-- A member is a name and, behind a colon, a value. -/
theorem readMembers_succ {fuel : Nat} {cs afterQuote afterName afterColon : List Char}
    {name : Option String} (hquote : skipSpace cs = '"' :: afterQuote)
    (hname : readString afterQuote = some (name, afterName))
    (hcolon : skipSpace afterName = ':' :: afterColon) :
    readMembers (fuel + 1) cs =
      (readValue fuel afterColon).bind fun first =>
        (readMoreMembers fuel first.2).map fun more => ((name, first.1) :: more.1, more.2) := by
  rw [readMembers, hquote]
  simp only [hname, hcolon, Option.bind_eq_bind, Option.bind_some]
  cases readValue fuel afterColon with
  | none => rfl
  | some first =>
    simp only [Option.bind_some, readMoreMembers]
    generalize skipSpace first.2 = behind
    split
    · rename_i rest
      show (readMembers fuel rest).bind _ = (readMembers fuel rest).map _
      cases readMembers fuel rest <;> rfl
    · rfl
    · simp [*]

theorem isSpace_of_isDigit {c : Char} (h : isDigit c = true) : isSpace c = false := by
  rw [Bool.eq_false_iff]
  intro hspace
  simp only [isSpace, Bool.or_eq_true, beq_iff_eq] at hspace
  rcases hspace with ((rfl | rfl) | rfl) | rfl <;> exact absurd h (by decide)

theorem readValue_number {fuel : Nat} {cs rest : List Char} (h : Number cs) (hrest : Ends rest) :
    readValue (fuel + 1) (cs ++ rest) = some (.number (String.ofList cs), rest) := by
  have hread := h.readNumber_append hrest
  obtain ⟨c, cs, rfl, hc⟩ := h.exists_cons
  have hspace : isSpace c = false := by
    rcases hc with rfl | hc
    · decide
    · exact isSpace_of_isDigit hc
  rw [List.cons_append] at hread ⊢
  simp only [readValue, skipSpace_cons hspace]
  split
  case h_7 => simp [hread]
  all_goals
    rename_i hstart
    obtain ⟨rfl, -⟩ := List.cons.inj hstart
    exact absurd hc (by decide)

theorem readValue_array {fuel : Nat} {cs rest : List Char} {items : List Json}
    (h : readItems fuel cs = some (items, rest)) (hopen : (skipSpace cs).head? ≠ some ']') :
    readValue (fuel + 1) ('[' :: cs) = some (.array items, rest) := by
  rw [← readItems_skipSpace] at h
  simp only [readValue, skipSpace_cons (c := '[') (by decide)]
  split
  · rename_i hclose
    simp [hclose] at hopen
  · simp [h]

theorem readValue_object {fuel : Nat} {cs rest : List Char}
    {members : List (Option String × Json)} (h : readMembers fuel cs = some (members, rest))
    (hopen : (skipSpace cs).head? ≠ some '\x7d') :
    readValue (fuel + 1) ('\x7b' :: cs) = some (.object members, rest) := by
  rw [← readMembers_skipSpace] at h
  simp only [readValue, skipSpace_cons (c := '\x7b') (by decide)]
  split
  · rename_i hclose
    simp [hclose] at hopen
  · simp [h]

theorem Spells.value_cons {cs : List Char} {json : Json} (h : Spells cs (.value json)) :
    ∃ c rest, cs = c :: rest ∧ isSpace c = false ∧ c ≠ ']' := by
  cases h with
  | number h =>
    obtain ⟨c, rest, rfl, hc⟩ := h.exists_cons
    refine ⟨c, rest, rfl, ?_, ?_⟩
    · rcases hc with rfl | hc
      · decide
      · exact isSpace_of_isDigit hc
    · rintro rfl
      exact absurd hc (by decide)
  | _ => exact ⟨_, _, rfl, by decide, by decide⟩

/-- What follows a value in an array or object is no part of a number. -/
theorem Spells.ends_moreItems {cs : List Char} {items : List Json}
    (h : Spells cs (.moreItems items)) (rest : List Char) : Ends (cs ++ rest) := by
  cases h with
  | endItems hfront | nextItem hfront =>
    rw [List.append_assoc]
    exact ends_blank hfront (by simp; decide)

theorem Spells.ends_moreMembers {cs : List Char} {members : List (Option String × Json)}
    (h : Spells cs (.moreMembers members)) (rest : List Char) : Ends (cs ++ rest) := by
  cases h with
  | endMembers hfront | nextMember hfront =>
    rw [List.append_assoc]
    exact ends_blank hfront (by simp; decide)

/-- A text is read as a piece, whatever may follow it, with two steps for each character. -/
def ReadAs (cs : List Char) : Piece → Prop
  | .value json => ∀ fuel rest, 2 * cs.length ≤ fuel → Ends rest →
      readValue fuel (cs ++ rest) = some (json, rest)
  | .items items => ∀ fuel rest, 2 * cs.length + 1 ≤ fuel →
      readItems fuel (cs ++ rest) = some (items, rest)
  | .moreItems items => ∀ fuel rest, 2 * cs.length ≤ fuel →
      readMoreItems fuel (cs ++ rest) = some (items, rest)
  | .members members => ∀ fuel rest, 2 * cs.length + 1 ≤ fuel →
      readMembers fuel (cs ++ rest) = some (members, rest)
  | .moreMembers members => ∀ fuel rest, 2 * cs.length ≤ fuel →
      readMoreMembers fuel (cs ++ rest) = some (members, rest)

theorem readAs_items {front cs tail : List Char} {item : Json} {items : List Json}
    (hfront : Blank front) (hitem : ReadAs cs (.value item))
    (hends : ∀ rest, Ends (tail ++ rest)) (hmore : ReadAs tail (.moreItems items)) :
    ReadAs (front ++ (cs ++ tail)) (.items (item :: items)) := by
  intro fuel rest hfuel
  obtain ⟨fuel, rfl⟩ : ∃ n, fuel = n + 1 := ⟨fuel - 1, by omega⟩
  simp only [List.length_append] at hfuel
  have hfirst := hitem fuel (tail ++ rest) (by omega) (hends rest)
  have hrest := hmore fuel rest (by omega)
  simp [readItems_succ, readValue_blank hfront, hfirst, hrest]

theorem readAs_members {front name before after cs tail : List Char} {units : List Nat}
    {value : Json} {members : List (Option String × Json)} (hfront : Blank front)
    (hname : Literal name units) (hbefore : Blank before) (hafter : Blank after)
    (hvalue : ReadAs cs (.value value)) (hends : ∀ rest, Ends (tail ++ rest))
    (hmore : ReadAs tail (.moreMembers members)) :
    ReadAs (front ++ '"' :: (name ++ (before ++ ':' :: (after ++ (cs ++ tail)))))
      (.members ((denoted units, value) :: members)) := by
  intro fuel rest hfuel
  obtain ⟨fuel, rfl⟩ : ∃ n, fuel = n + 1 := ⟨fuel - 1, by omega⟩
  simp only [List.length_append, List.length_cons] at hfuel
  have hfirst := hvalue fuel (tail ++ rest) (by omega) (hends rest)
  have hrest := hmore fuel rest (by omega)
  simp only [List.append_assoc, List.cons_append]
  rw [readMembers_succ (skipSpace_blank_cons hfront (by decide) _) (hname.readString_append _)
    (skipSpace_blank_cons hbefore (by decide) _), readValue_blank hafter, hfirst, Option.bind_some,
    hrest, Option.map_some]

/-- There is a step left wherever a value starts. -/
theorem readAs_value {cs : List Char} {json : Json} (hcs : cs ≠ [])
    (h : ∀ fuel rest, 2 * cs.length ≤ fuel + 1 → Ends rest →
      readValue (fuel + 1) (cs ++ rest) = some (json, rest)) : ReadAs cs (.value json) := by
  intro fuel rest hfuel hrest
  have hlength := List.length_pos_iff.mpr hcs
  obtain ⟨fuel, rfl⟩ : ∃ n, fuel = n + 1 := ⟨fuel - 1, by omega⟩
  exact h fuel rest hfuel hrest

theorem Spells.readAs {cs : List Char} {piece : Piece} (h : Spells cs piece) :
    ReadAs cs piece := by
  induction h with
  | null =>
    refine readAs_value (by simp) fun fuel rest _ _ => ?_
    simp [readValue, skipSpace_cons (c := 'n') (by decide)]
  | bool_true =>
    refine readAs_value (by simp) fun fuel rest _ _ => ?_
    simp [readValue, skipSpace_cons (c := 't') (by decide)]
  | bool_false =>
    refine readAs_value (by simp) fun fuel rest _ _ => ?_
    simp [readValue, skipSpace_cons (c := 'f') (by decide)]
  | number h =>
    obtain ⟨c, cs, rfl, -⟩ := h.exists_cons
    exact readAs_value (by simp) fun fuel rest _ hrest => readValue_number h hrest
  | string h =>
    refine readAs_value (by simp) fun fuel rest _ _ => ?_
    simp [readValue, skipSpace_cons (c := '"') (by decide), h.readString_append]
  | emptyArray hinside =>
    refine readAs_value (by simp) fun fuel rest _ _ => ?_
    have hclose := skipSpace_blank_cons hinside (c := ']') (by decide) rest
    simp [readValue, skipSpace_cons (c := '[') (by decide), hclose]
  | @array cs items hinside ih =>
    refine readAs_value (by simp) fun fuel rest hfuel _ => ?_
    rw [List.length_cons] at hfuel
    refine readValue_array (ih fuel rest (by omega)) ?_
    cases hinside with
    | items hfront hfirst =>
      obtain ⟨c, cs, rfl, hspace, hc⟩ := hfirst.value_cons
      simpa [skipSpace_blank hfront, skipSpace_cons hspace] using hc
  | emptyObject hinside =>
    refine readAs_value (by simp) fun fuel rest _ _ => ?_
    have hclose := skipSpace_blank_cons hinside (c := '\x7d') (by decide) rest
    simp [readValue, skipSpace_cons (c := '\x7b') (by decide), hclose]
  | @object cs members hinside ih =>
    refine readAs_value (by simp) fun fuel rest hfuel _ => ?_
    rw [List.length_cons] at hfuel
    refine readValue_object (ih fuel rest (by omega)) ?_
    cases hinside with
    | members hfront =>
      simp [skipSpace_blank hfront, skipSpace_cons (c := '"') (by decide)]
  | items hfront _ hmore ihfirst ihmore =>
    exact readAs_items hfront ihfirst hmore.ends_moreItems ihmore
  | endItems hfront =>
    intro fuel rest _
    simp [readMoreItems, skipSpace_blank hfront, skipSpace_cons (c := ']') (by decide)]
  | nextItem hfront _ ih =>
    intro fuel rest hfuel
    simp only [List.length_append, List.length_cons] at hfuel
    simp [readMoreItems, skipSpace_blank hfront, skipSpace_cons (c := ',') (by decide),
      ih fuel rest (by omega)]
  | members hfront hname hbefore hafter _ hmore ihfirst ihmore =>
    exact readAs_members hfront hname hbefore hafter ihfirst hmore.ends_moreMembers ihmore
  | endMembers hfront =>
    intro fuel rest _
    simp [readMoreMembers, skipSpace_blank hfront, skipSpace_cons (c := '\x7d') (by decide)]
  | nextMember hfront _ ih =>
    intro fuel rest hfuel
    simp only [List.length_append, List.length_cons] at hfuel
    simp [readMoreMembers, skipSpace_blank hfront, skipSpace_cons (c := ',') (by decide),
      ih fuel rest (by omega)]

/-- A text that spells a value is read as that value. -/
theorem parse?_of_spelledBy {json : Json} {text : String} (h : SpelledBy json text) :
    parse? text = some json := by
  obtain ⟨front, cs, back, hfront, hspells, hback, htext⟩ := h
  have hread : readValue (2 * text.toList.length + 2) text.toList = some (json, back) := by
    have hends := ends_blank hback ends_nil
    rw [List.append_nil] at hends
    rw [htext, readValue_blank hfront]
    refine hspells.readAs _ back ?_ hends
    simp only [List.length_append]
    omega
  have hend : skipSpace back = [] := by
    have := skipSpace_blank hback []
    rwa [List.append_nil] at this
  rw [parse?, hread]
  simp [hend]

end DeclTree.Json

/-!
# Cutting and searching text

Splitting at a separator, replacing a two-character separator, and containment. All of them are
plain recursions on the list of characters.
-/

namespace DeclTree.Text

/-- The parts of a text between the occurrences of a separator; one part more than separators. -/
def splitAt (separator : Char) : List Char → List (List Char)
  | [] => [[]]
  | c :: cs =>
    if c = separator then [] :: splitAt separator cs
    else
      match splitAt separator cs with
      | [] => [[c]]
      | part :: parts => (c :: part) :: parts

/-- The parts of a text with the separator written between them. -/
def joinWith (separator : Char) (parts : List (List Char)) : List Char :=
  [separator].intercalate parts

/-- Splits before and after the last occurrence of a separator, if there is one. -/
def splitLast (separator : Char) : List Char → Option (List Char × List Char)
  | [] => none
  | c :: cs =>
    match splitLast separator cs with
    | some (front, back) => some (c :: front, back)
    | none => if c = separator then some ([], cs) else none

/-- Writes every `::`, read from the left, as `.`. -/
def dotPairs : List Char → List Char
  | ':' :: ':' :: cs => '.' :: dotPairs cs
  | c :: cs => c :: dotPairs cs
  | [] => []

def startsWith : List Char → List Char → Bool
  | [], _ => true
  | _ :: _, [] => false
  | a :: as, b :: bs => a == b && startsWith as bs

def occursIn (needle : List Char) : List Char → Bool
  | [] => needle.isEmpty
  | c :: cs => startsWith needle (c :: cs) || occursIn needle cs

/-- Drops a leading text as often as it stands at the front, at most as often as the fuel says. -/
def dropLeading (lead : List Char) : Nat → List Char → List Char
  | 0, cs => cs
  | n + 1, cs => if startsWith lead cs then dropLeading lead n (cs.drop lead.length) else cs

/-- Drops every copy of a non-empty leading text. -/
def dropLeadingAll (lead cs : List Char) : List Char :=
  if lead.isEmpty then cs else dropLeading lead cs.length cs

@[simp] theorem splitAt_nil (separator : Char) : splitAt separator [] = [[]] := rfl

theorem splitAt_ne_nil (separator : Char) (cs : List Char) : splitAt separator cs ≠ [] := by
  cases cs with
  | nil => simp
  | cons c cs =>
    unfold splitAt
    split
    · simp
    · split <;> simp

/-- Splitting and joining at the same separator gives the text back. -/
theorem joinWith_splitAt (separator : Char) (cs : List Char) :
    joinWith separator (splitAt separator cs) = cs := by
  induction cs with
  | nil => simp [joinWith, List.intercalate]
  | cons c cs ih =>
    unfold splitAt
    have hne := splitAt_ne_nil separator cs
    split
    · rename_i h
      subst h
      cases hs : splitAt c cs with
      | nil => exact absurd hs hne
      | cons p ps => simpa [joinWith, List.intercalate, hs] using ih
    · cases hs : splitAt separator cs with
      | nil => exact absurd hs hne
      | cons p ps =>
        cases ps with
        | nil => simpa [joinWith, List.intercalate, hs] using ih
        | cons q qs => simpa [joinWith, List.intercalate, hs] using ih

theorem startsWith_iff {needle cs : List Char} :
    startsWith needle cs = true ↔ ∃ rest, cs = needle ++ rest := by
  induction needle generalizing cs with
  | nil => simp [startsWith]
  | cons a as ih =>
    cases cs with
    | nil => simp [startsWith]
    | cons b bs =>
      simp only [startsWith, Bool.and_eq_true, beq_iff_eq, ih, List.cons_append, List.cons.injEq]
      constructor
      · rintro ⟨rfl, rest, rfl⟩
        exact ⟨rest, rfl, rfl⟩
      · rintro ⟨rest, rfl, rfl⟩
        exact ⟨rfl, rest, rfl⟩

/-- Containment is having the needle between two other texts. -/
theorem occursIn_iff {needle cs : List Char} :
    occursIn needle cs = true ↔ ∃ front back, cs = front ++ needle ++ back := by
  induction cs with
  | nil => cases needle <;> simp [occursIn]
  | cons c cs ih =>
    simp only [occursIn, Bool.or_eq_true, startsWith_iff, ih]
    constructor
    · rintro (⟨rest, h⟩ | ⟨front, back, rfl⟩)
      · exact ⟨[], rest, by simpa using h⟩
      · exact ⟨c :: front, back, by simp⟩
    · rintro ⟨front, back, h⟩
      cases front with
      | nil => exact .inl ⟨back, by simpa using h⟩
      | cons d front =>
        simp only [List.cons_append, List.cons.injEq] at h
        exact .inr ⟨front, back, by simpa using h.2⟩

end DeclTree.Text

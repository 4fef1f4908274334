/-!
# Blanks in text

The characters with the Unicode property White_Space, and the few operations on text that are
defined through them: trimming, and cutting a text into its words. Text is handled as a list of
characters, so that every function here recurses on its argument.
-/

namespace DeclTree.Text

/-- The property White_Space. -/
def isBlank (c : Char) : Bool :=
  let n := c.toNat
  (0x9 ≤ n && n ≤ 0xD) || n == 0x20 || n == 0x85 || n == 0xA0 || n == 0x1680 ||
    (0x2000 ≤ n && n ≤ 0x200A) || n == 0x2028 || n == 0x2029 || n == 0x202F || n == 0x205F ||
    n == 0x3000

def skipBlank (cs : List Char) : List Char := cs.dropWhile isBlank

/-- The text without the blanks at its end. -/
def trimEnd (cs : List Char) : List Char := (cs.reverse.dropWhile isBlank).reverse

/-- The text without the blanks at either end. -/
def trim (cs : List Char) : List Char := trimEnd (skipBlank cs)

/-- Whether a word ends in front of this text: at its end, or at a blank. -/
def wordEnds : List Char → Bool
  | [] => true
  | c :: _ => isBlank c

/-- Puts a character in front of a list of words, as a word of its own or into the first one. -/
def consWord (c : Char) (alone : Bool) : List (List Char) → List (List Char)
  | [] => [[c]]
  | w :: ws => if alone then [c] :: w :: ws else (c :: w) :: ws

/-- The maximal runs of characters that are no blanks. -/
def words : List Char → List (List Char)
  | [] => []
  | c :: cs => if isBlank c then words cs else consWord c (wordEnds cs) (words cs)

/-- Every run of blanks inside the text becomes one space, and those at its ends go. -/
def collapseBlanks (cs : List Char) : List Char := [' '].intercalate (words cs)

@[simp] theorem words_nil : words [] = [] := rfl

@[simp] theorem words_blank {c : Char} (cs : List Char) (h : isBlank c = true) :
    words (c :: cs) = words cs := by
  simp [words, h]

/-- What is left after skipping blanks does not start with one. -/
theorem isBlank_head_skipBlank {cs : List Char} {c : Char} {rest : List Char}
    (h : skipBlank cs = c :: rest) : isBlank c = false := by
  induction cs with
  | nil => simp [skipBlank] at h
  | cons d ds ih =>
    by_cases hd : isBlank d = true
    · exact ih (by simpa [skipBlank, hd] using h)
    · simp [skipBlank, hd] at h
      obtain ⟨rfl, _⟩ := h
      simpa using hd

end DeclTree.Text

import DeclTree.Text.CaseTable

/-!
# Lower case

Full lower-casing of a text. Every character has its own image except two: U+0130 becomes a small i
with a combining dot, and a capital sigma becomes the final form at the end of a word and the
ordinary small sigma elsewhere. A sigma ends a word when, leaving out case-ignorable characters, a
cased character stands before it and none after it.
-/

namespace DeclTree.Text

def isCased (c : Char) : Bool := inRanges casedRanges c.toNat

def isCaseIgnorable (c : Char) : Bool := inRanges caseIgnorableRanges c.toNat

/-- The lower-case form of a character that does not depend on its surroundings. -/
def lowerChar (c : Char) : List Char :=
  let n := c.toNat
  if n < 0x80 then [if 0x41 ≤ n && n ≤ 0x5A then Char.ofNat (n + 0x20) else c]
  else if n = 0x130 then ['i', Char.ofNat 0x307]
  else [Char.ofNat (mapCase lowercaseTable n)]

/-- Whether the first character that is not case-ignorable is cased. -/
def meetsCased (cs : List Char) : Bool :=
  match cs.dropWhile isCaseIgnorable with
  | [] => false
  | c :: _ => isCased c

/-- The small form of a capital sigma between the text before it, read backwards, and the text
after it. -/
def lowerSigma (before after : List Char) : Char :=
  if meetsCased before && !meetsCased after then 'ς' else 'σ'

/-- Lower-cases a text that follows `before`, which is given backwards. -/
def lowerAfter (before : List Char) : List Char → List Char
  | [] => []
  | c :: cs =>
    (if c = 'Σ' then [lowerSigma before cs] else lowerChar c) ++ lowerAfter (c :: before) cs

def lower (cs : List Char) : List Char := lowerAfter [] cs

end DeclTree.Text

import DeclTree.Text.Alphabetic
import DeclTree.Text.Blank
import DeclTree.Text.CaseFolding
import DeclTree.Text.Lowercase
import DeclTree.Text.Script

/-!
# Sets of symbols

Symbols are natural numbers: code points of a text, or bytes. A set of them is kept as the
expression that describes it and is asked about one symbol at a time.
-/

namespace DeclTree.Matcher

/-- The properties by which a set of characters can be named. -/
inductive Property where
  | any
  | ascii
  | assigned
  /-- A general category, by its abbreviation of one letter or two. -/
  | category (abbreviation : String)
  /-- Letters with a case. -/
  | casedLetter
  /-- A script, by its four-letter abbreviation. -/
  | script (abbreviation : String)
  | alphabetic
  | blank
  | cased
  | caseIgnorable
  | uppercase
  | lowercase
  /-- The characters of words. -/
  | word
deriving DecidableEq, Repr

/-- Upper-case characters that are no letters. -/
def otherUppercase : List (Nat × Nat) :=
  [(0x2160, 0x216F), (0x24B6, 0x24CF), (0x1F130, 0x1F149), (0x1F150, 0x1F169), (0x1F170, 0x1F189)]

/-- Lower-case characters of other categories than that of lower-case letters. -/
def otherLowercase : List (Nat × Nat) :=
  [(0xAA, 0xAA), (0xBA, 0xBA), (0x2B0, 0x2B8), (0x2C0, 0x2C1), (0x2E0, 0x2E4), (0x345, 0x345),
  (0x37A, 0x37A), (0x10FC, 0x10FC), (0x1D2C, 0x1D6A), (0x1D78, 0x1D78), (0x1D9B, 0x1DBF),
  (0x2071, 0x2071), (0x207F, 0x207F), (0x2090, 0x209C), (0x2170, 0x217F), (0x24D0, 0x24E9),
  (0x2C7C, 0x2C7D), (0xA69C, 0xA69D), (0xA770, 0xA770), (0xA7F2, 0xA7F4), (0xA7F8, 0xA7F9),
  (0xAB5C, 0xAB5F), (0xAB69, 0xAB69), (0x10780, 0x10780), (0x10783, 0x10785), (0x10787, 0x107B0),
  (0x107B2, 0x107BA), (0x1E030, 0x1E06D)]

open Text in
def Property.holds : Property → Nat → Bool
  | .any, _ => true
  | .ascii, n => n < 0x80
  | .assigned, n => Text.category n != "Cn"
  | .category abbreviation, n => inCategory abbreviation n
  | .casedLetter, n => inCategory "Lu" n || inCategory "Ll" n || inCategory "Lt" n
  | .script abbreviation, n => Text.script n == abbreviation
  | .alphabetic, n => isAlphabetic n
  | .blank, n => isBlank (Char.ofNat n)
  | .cased, n => inRanges casedRanges n
  | .caseIgnorable, n => inRanges caseIgnorableRanges n
  | .uppercase, n => inCategory "Lu" n || inRanges otherUppercase n
  | .lowercase, n => inCategory "Ll" n || inRanges otherLowercase n
  | .word, n => isWordChar n

inductive Symbols where
  | none
  | range (first last : Nat)
  | property (property : Property)
  | union (a b : Symbols)
  | intersection (a b : Symbols)
  | difference (a b : Symbols)
  | symmetricDifference (a b : Symbols)
  | complement (a : Symbols)
  /-- All code points equal up to case to one of the set. -/
  | caseless (a : Symbols)
  /-- All bytes equal up to the case of ASCII letters to one of the set. -/
  | caselessAscii (a : Symbols)
deriving Inhabited

/-- An ASCII letter in the other case, and any other symbol as it is. -/
def swapAsciiCase (n : Nat) : Nat :=
  if 0x41 ≤ n && n ≤ 0x5A then n + 0x20 else if 0x61 ≤ n && n ≤ 0x7A then n - 0x20 else n

namespace Symbols

def one (n : Nat) : Symbols := .range n n

def ofRanges (ranges : List (Nat × Nat)) : Symbols :=
  ranges.foldr (fun r set => .union (.range r.1 r.2) set) .none

def contains : Symbols → Nat → Bool
  | .none, _ => false
  | .range first last, n => first ≤ n && n ≤ last
  | .property p, n => p.holds n
  | .union a b, n => a.contains n || b.contains n
  | .intersection a b, n => a.contains n && b.contains n
  | .difference a b, n => a.contains n && !b.contains n
  | .symmetricDifference a b, n => a.contains n != b.contains n
  | .complement a, n => !a.contains n
  | .caseless a, n => a.contains n || (Text.caseVariants n).any a.contains
  | .caselessAscii a, n => a.contains n || a.contains (swapAsciiCase n)

end Symbols

end DeclTree.Matcher

import DeclTree.Pattern.Expression
import DeclTree.Pattern.PropertyName

/-!
# Escapes in patterns

What may follow a backslash: a character to be taken as it is, a control character, a code point in
hexadecimal, a class, a property or an anchor. In verbose patterns blanks and comments are skipped
between the parts of an escape.
-/

namespace DeclTree.Pattern

/-- Skips blanks and comments, which run from a number sign to the end of the line. -/
def skipIgnoredFrom : Bool → List Char → List Char
  | _, [] => []
  | true, c :: cs => skipIgnoredFrom (c ≠ '\n') cs
  | false, c :: cs =>
    if Text.isBlank c then skipIgnoredFrom false cs
    else if c = '#' then skipIgnoredFrom true cs
    else c :: cs

def skipIgnored (verbose : Bool) (cs : List Char) : List Char :=
  if verbose then skipIgnoredFrom false cs else cs

/-- What an escape, or a character on its own, stands for. -/
inductive Atom where
  | literal (value : Literal)
  | shorthand (name : Shorthand) (negated : Bool)
  | property (property : Matcher.Property) (negated : Bool)
  | anchor (anchor : Anchor)

/-- The characters with a meaning of their own in patterns. -/
def isMeta (c : Char) : Bool :=
  ['\\', '.', '+', '*', '?', '(', ')', '|', '[', ']', '\x7b', '\x7d', '^', '$', '#', '&', '-',
    '~'].contains c

/-- The characters that may be escaped without need: the rest of ASCII without letters, digits and
angle brackets. -/
def isEscapable (c : Char) : Bool :=
  c.toNat < 0x80 && !(c.isAlphanum || c == '<' || c == '>')

def hexDigit? (c : Char) : Option Nat :=
  if '0' ≤ c && c ≤ '9' then some (c.toNat - '0'.toNat)
  else if 'a' ≤ c && c ≤ 'f' then some (c.toNat - 'a'.toNat + 10)
  else if 'A' ≤ c && c ≤ 'F' then some (c.toNat - 'A'.toNat + 10)
  else none

def hexNumber? (digits : List Char) : Option Nat :=
  digits.foldlM (fun n c => (hexDigit? c).map (16 * n + ·)) 0

/-- A code point that is a character, which surrogates are not. -/
def scalar? (n : Nat) : Option Nat :=
  if n < 0xD800 || (0xDFFF < n && n < 0x110000) then some n else none

/-- Reads the given number of characters, skipping what is ignored after each of them. -/
def readFixed (verbose : Bool) : Nat → List Char → Option (List Char × List Char)
  | 0, cs => some ([], cs)
  | _ + 1, [] => none
  | n + 1, c :: cs => do
    let (digits, rest) ← readFixed verbose n (skipIgnored verbose cs)
    pure (c :: digits, rest)

def readBraced (verbose : Bool) : Nat → List Char → Option (List Char × List Char)
  | 0, _ => none
  | fuel + 1, cs =>
    match skipIgnored verbose cs with
    | [] => none
    | '\x7d' :: rest => some ([], rest)
    | c :: rest => do
      let (inside, rest) ← readBraced verbose fuel rest
      pure (c :: inside, rest)

/-- Reads a code point in hexadecimal, with a fixed number of digits or between braces. -/
def readHex (verbose : Bool) (digits : Nat) (cs : List Char) : Option (Atom × List Char) :=
  match skipIgnored verbose cs with
  | '\x7b' :: rest => do
    let (inside, rest) ← readBraced verbose (rest.length + 1) rest
    if inside.isEmpty then none
    else
      let code ← (hexNumber? inside).bind scalar?
      pure (.literal ⟨code, false⟩, skipIgnored verbose rest)
  | cs => do
    let (inside, rest) ← readFixed verbose digits cs
    let code ← (hexNumber? inside).bind scalar?
    pure (.literal ⟨code, digits == 2⟩, rest)

def readProperty (verbose negated : Bool) (cs : List Char) : Option (Atom × List Char) :=
  match skipIgnored verbose cs with
  | [] => none
  | '\x7b' :: rest => do
    let (inside, rest) ← readBraced verbose (rest.length + 1) rest
    let (property, other) ← propertyIn? inside
    pure (.property property (negated != other), rest)
  | c :: rest =>
    if c = '\\' then none
    else do
      let property ← property? [c]
      pure (.property property negated, skipIgnored verbose rest)

def isEdgeLetter (c : Char) : Bool := c.isAlpha || c == '-'

/-- The letters of a name, leaving out what is ignored between them. -/
def spanEdgeName (verbose : Bool) : Nat → List Char → List Char × List Char
  | 0, cs => ([], cs)
  | _ + 1, [] => ([], [])
  | fuel + 1, c :: cs =>
    if isEdgeLetter c then
      let (name, rest) := spanEdgeName verbose fuel (skipIgnored verbose cs)
      (c :: name, rest)
    else ([], c :: cs)

/-- The edges of words that can be named between braces after `\b`. -/
def namedEdge? (name : List Char) : Option Matcher.WordEdge :=
  if name = "start".toList then some .start
  else if name = "end".toList then some .end
  else if name = "start-half".toList then some .startHalf
  else if name = "end-half".toList then some .endHalf
  else none

/-- Reads what may follow `\b`: a name between braces. A brace with anything else behind it is left
for a repetition. -/
def readEdge (verbose : Bool) (cs : List Char) : Option (Matcher.WordEdge × List Char) :=
  match cs with
  | '\x7b' :: rest =>
    match skipIgnored verbose rest with
    | [] => none
    | c :: inside =>
      if isEdgeLetter c then
        match spanEdgeName verbose (inside.length + 1) (c :: inside) with
        | (name, '\x7d' :: rest) => (namedEdge? name).map (·, rest)
        | _ => none
      else some (.boundary, cs)
  | _ => some (.boundary, cs)

def control? (c : Char) : Option Nat :=
  if c = 'a' then some 0x7
  else if c = 'f' then some 0xC
  else if c = 't' then some 0x9
  else if c = 'n' then some 0xA
  else if c = 'r' then some 0xD
  else if c = 'v' then some 0xB
  else none

def readEscape (verbose : Bool) : List Char → Option (Atom × List Char)
  | [] => none
  | c :: rest =>
    if c = 'x' then readHex verbose 2 rest
    else if c = 'u' then readHex verbose 4 rest
    else if c = 'U' then readHex verbose 8 rest
    else if c = 'p' then readProperty verbose false rest
    else if c = 'P' then readProperty verbose true rest
    else if c = 'd' then some (.shorthand .digit false, rest)
    else if c = 'D' then some (.shorthand .digit true, rest)
    else if c = 's' then some (.shorthand .space false, rest)
    else if c = 'S' then some (.shorthand .space true, rest)
    else if c = 'w' then some (.shorthand .word false, rest)
    else if c = 'W' then some (.shorthand .word true, rest)
    else if isMeta c || isEscapable c then some (.literal ⟨c.toNat, false⟩, rest)
    else if c = 'A' then some (.anchor .textStart, rest)
    else if c = 'z' then some (.anchor .textEnd, rest)
    else if c = 'b' then
      (readEdge verbose rest).map fun (edge, rest) => (.anchor (.wordEdge edge), rest)
    else if c = 'B' then some (.anchor (.wordEdge .inside), rest)
    else if c = '<' then some (.anchor (.wordEdge .start), rest)
    else if c = '>' then some (.anchor (.wordEdge .end), rest)
    else (control? c).map fun n => (.literal ⟨n, false⟩, rest)

end DeclTree.Pattern

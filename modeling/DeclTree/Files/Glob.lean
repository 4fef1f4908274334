import DeclTree.Matcher.Search

/-!
# Globs

Patterns for whole paths, matched against their encoded bytes. A star and a question mark do not
match a slash; two stars between slashes, or at an end, match any number of directories. Brackets
hold a class and braces alternatives, which may nest. A bracket that is never closed stands for
itself.
-/

namespace DeclTree.Glob

inductive Token where
  | literal (c : Char)
  /-- One byte of a name. -/
  | any
  /-- Any part of a name. -/
  | star
  /-- Any directories in front. -/
  | leading
  /-- Everything below. -/
  | trailing
  /-- Any directories in between. -/
  | between
  | bracket (negated : Bool) (ranges : List (Char × Char))
  | alternatives (branches : List (List Token))
deriving Inhabited

/-- An alternation that is still open: the tokens before its brace and the branches already
complete, both newest first. -/
structure Frame where
  before : List Token
  branches : List (List Token)

/-- What has been read: the tokens of the branch at hand, newest first, and the open alternations
around it, innermost first. -/
structure Reading where
  tokens : List Token := []
  frames : List Frame := []

def Reading.push (r : Reading) (t : Token) : Reading := { r with tokens := t :: r.tokens }

def Reading.openBrace (r : Reading) : Reading := ⟨[], ⟨r.tokens, []⟩ :: r.frames⟩

/-- Ends a branch; outside of alternations a comma stands for itself. -/
def Reading.comma (r : Reading) : Reading :=
  match r.frames with
  | [] => r.push (.literal ',')
  | f :: fs => ⟨[], { f with branches := r.tokens.reverse :: f.branches } :: fs⟩

/-- Ends an alternation, if one is open. -/
def Reading.closeBrace? (r : Reading) : Option Reading :=
  match r.frames with
  | [] => none
  | f :: fs =>
    some ⟨.alternatives (r.tokens.reverse :: f.branches).reverse :: f.before, fs⟩

/-- Puts two stars that stand for directories in the place of the slash before them; directories in
front stay directories in front, and everything below stays everything below. -/
def Reading.directories (r : Reading) (t : Token) : Reading :=
  match r.tokens with
  | .leading :: rest => { r with tokens := .leading :: rest }
  | .trailing :: rest => { r with tokens := .trailing :: rest }
  | _ :: rest => { r with tokens := t :: rest }
  | [] => r.push t

/-- What two stars are, given the character before them: what has been read with them, and the text
behind them together with the last character read. -/
def Reading.twoStars (r : Reading) (previous : Option Char) (rest : List Char) :
    Reading × Char × List Char :=
  let plain := ((r.push .star).push .star, '*', rest)
  if r.tokens.isEmpty then
    match rest with
    | [] => (r.push .leading, '*', [])
    | '/' :: rest => (r.push .leading, '/', rest)
    | _ => plain
  else if previous == some '/' ||
      (!r.frames.isEmpty && (previous == some ',' || previous == some '\x7b')) then
    match rest with
    | [] => (r.directories .trailing, '*', [])
    | '/' :: rest => (r.directories .between, '/', rest)
    | c :: rest =>
      if !r.frames.isEmpty && (c == ',' || c == '\x7d') then
        (r.directories .trailing, '*', c :: rest)
      else plain
  else plain

inductive ClassReading where
  | unclosed
  /-- A range that ends before it starts. -/
  | invalid
  | closed (ranges : List (Char × Char)) (rest : List Char)

def endRange? (c : Char) : List (Char × Char) → Option (List (Char × Char))
  | (low, _) :: ranges => if c < low then none else some ((low, c) :: ranges)
  | [] => none

/-- Reads a class up to its bracket; ranges are kept newest first. A bracket or hyphen in first
place stands for itself, and so does a hyphen in last place. -/
def readClass (first ranging : Bool) (ranges : List (Char × Char)) : List Char → ClassReading
  | [] => .unclosed
  | c :: cs =>
    if c == ']' && !first then
      .closed (if ranging then ('-', '-') :: ranges else ranges).reverse cs
    else if c == '-' && !first && !ranging then readClass false true ranges cs
    else if ranging then
      match endRange? c ranges with
      | some ranges => readClass false false ranges cs
      | none => .invalid
    else readClass false false ((c, c) :: ranges) cs

/-- The negation mark of a class, and what follows it. -/
def readNegation : List Char → Bool × List Char
  | '!' :: cs => (true, cs)
  | '^' :: cs => (true, cs)
  | cs => (false, cs)

/-- Reads the rest of a glob, given the character before it. Every call reads a character, so fuel
for one more than there are is enough. -/
def readFrom : Nat → Option Char → Reading → List Char → Option Reading
  | 0, _, _, _ => none
  | _ + 1, _, r, [] => some r
  | fuel + 1, previous, r, c :: cs =>
    match c with
    | '?' => readFrom fuel (some c) (r.push .any) cs
    | '*' =>
      match cs with
      | '*' :: cs =>
        let (r, last, cs) := r.twoStars previous cs
        readFrom fuel (some last) r cs
      | cs => readFrom fuel (some c) (r.push .star) cs
    | '[' =>
      let (negated, body) := readNegation cs
      match readClass true false [] body with
      | .unclosed => readFrom fuel (some c) (r.push (.literal '[')) cs
      | .invalid => none
      | .closed ranges rest => readFrom fuel (some ']') (r.push (.bracket negated ranges)) rest
    | '\x7b' => readFrom fuel (some c) r.openBrace cs
    | '\x7d' => r.closeBrace?.bind fun r => readFrom fuel (some c) r cs
    | ',' => readFrom fuel (some c) r.comma cs
    | '\\' =>
      match cs with
      | [] => none
      | d :: cs => readFrom fuel (some d) (r.push (.literal d)) cs
    | c => readFrom fuel (some c) (r.push (.literal c)) cs

/-- The tokens of a glob, unless a range ends before it starts, a brace has no partner, or a
backslash escapes nothing. -/
def read? (text : List Char) : Option (List Token) := do
  let r ← readFrom (text.length + 1) none {} text
  if r.frames.isEmpty then some r.tokens.reverse else none

open Matcher (Symbols)

def bytesOf (c : Char) : List Nat := (String.singleton c).toUTF8.toList.map UInt8.toNat

def slash : Matcher := .literal 0x2F

/-- Any byte but a slash. -/
def nameByte : Matcher := .symbol (.complement (.one 0x2F))

def anything : Matcher := .repeat (.symbol (.property .any)) 0 none

/-- The bytes of a class. A range runs from the last byte of its first character to the first byte
of its last character, and the other bytes of both stand for themselves. -/
def rangeBytes (range : Char × Char) : Symbols :=
  let first := bytesOf range.1
  let last := bytesOf range.2
  let singles := fun bytes => Symbols.ofRanges (bytes.map fun b => (b, b))
  if range.1 = range.2 then singles first
  else
    .union (.range (first.getLast?.getD 0) (last.head?.getD 0))
      (.union (singles first.dropLast) (singles last.tail))

mutual

/-- Whether a token matches nothing but the empty text because it has only empty branches. -/
def isVoid : Token → Bool
  | .alternatives branches => areVoid branches
  | _ => false

def allVoid : List Token → Bool
  | [] => true
  | t :: ts => isVoid t && allVoid ts

def areVoid : List (List Token) → Bool
  | [] => true
  | b :: bs => allVoid b && areVoid bs

end

mutual

def matcherOf : Token → Matcher
  | .literal c => .sequence ((bytesOf c).map .literal)
  | .any => nameByte
  | .star => .repeat nameByte 0 none
  | .leading => .either (.repeat slash 0 (some 1)) (.concat anything slash)
  | .trailing => .concat slash anything
  | .between => .either slash (.concat slash (.concat anything slash))
  | .bracket negated ranges =>
    let set := (ranges.map rangeBytes).foldr .union .none
    .symbol (if negated then .complement set else set)
  | .alternatives branches =>
    match branchesOf branches with
    | [] => .empty
    | rs => .choice rs

def matcherOfAll : List Token → Matcher
  | [] => .empty
  | t :: ts => .concat (matcherOf t) (matcherOfAll ts)

def branchesOf : List (List Token) → List Matcher
  | [] => []
  | b :: bs => if allVoid b then branchesOf bs else matcherOfAll b :: branchesOf bs

end

/-- The matcher of a glob; one that is only directories in front matches every path. -/
def matcher : List Token → Matcher
  | [.leading] => anything
  | tokens => matcherOfAll tokens

def compile? (text : List Char) : Option Matcher := (read? text).map matcher

def accepts (glob : Matcher) (path : String) : Bool :=
  glob.matchesAll (path.toUTF8.toList.map UInt8.toNat)

end DeclTree.Glob

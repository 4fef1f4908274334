import DeclTree.Pattern.Escape

/-!
# Reading patterns

The reader of patterns. Everything it refuses is refused with the same answer, `none`. A cursor
holds the rest of the pattern, whether blanks are ignored there, and the group names used so far.
Every step that is taken without consuming a character is followed by one that does, so four steps
for every character are enough.
-/

namespace DeclTree.Pattern

structure Cursor where
  rest : List Char
  verbose : Bool := false
  names : List (List Char) := []

def Cursor.at (cursor : Cursor) (rest : List Char) : Cursor := { cursor with rest }

def Cursor.skip (cursor : Cursor) : Cursor :=
  cursor.at (skipIgnored cursor.verbose cursor.rest)

def asciiClasses : List (String × List (Nat × Nat)) :=
  [("alnum", [(0x30, 0x39), (0x41, 0x5A), (0x61, 0x7A)]), ("alpha", [(0x41, 0x5A), (0x61, 0x7A)]),
    ("ascii", [(0, 0x7F)]), ("blank", [(0x9, 0x9), (0x20, 0x20)]),
    ("cntrl", [(0, 0x1F), (0x7F, 0x7F)]), ("digit", [(0x30, 0x39)]), ("graph", [(0x21, 0x7E)]),
    ("lower", [(0x61, 0x7A)]), ("print", [(0x20, 0x7E)]),
    ("punct", [(0x21, 0x2F), (0x3A, 0x40), (0x5B, 0x60), (0x7B, 0x7E)]),
    ("space", [(0x9, 0xD), (0x20, 0x20)]), ("upper", [(0x41, 0x5A)]),
    ("word", [(0x30, 0x39), (0x41, 0x5A), (0x5F, 0x5F), (0x61, 0x7A)]),
    ("xdigit", [(0x30, 0x39), (0x41, 0x46), (0x61, 0x66)])]

/-- Reads an ASCII class such as `[:alpha:]` after its bracket. Anything else is no failure of the
pattern but the start of an inner bracket. -/
def asciiClass? (cs : List Char) : Option (ClassSet × List Char) :=
  match cs with
  | ':' :: rest =>
    let (negated, rest) := match rest with
      | '^' :: rest => (true, rest)
      | rest => (false, rest)
    match rest.span (· ≠ ':') with
    | (name, ':' :: ']' :: rest) =>
      (asciiClasses.find? fun entry => entry.1.toList = name).map fun entry =>
        (.ascii entry.2 negated, rest)
    | _ => none
  | _ => none

def readClassAtom (cursor : Cursor) : Option (Atom × Cursor) :=
  match cursor.rest with
  | [] => none
  | '\\' :: rest => do
    let (atom, rest) ← readEscape cursor.verbose rest
    pure (atom, cursor.at rest)
  | c :: rest => some (.literal ⟨c.toNat, false⟩, cursor.at rest)

/-- What stands in a bracket for an atom; an anchor does not. -/
def Atom.toClassSet? : Atom → Option ClassSet
  | .literal value => some (.literal value)
  | .shorthand name negated => some (.shorthand name negated)
  | .property p negated => some (.property p negated)
  | .anchor _ => none

/-- Whether the rest, at a hyphen, starts a range: not in front of a closing bracket or another
hyphen. -/
def startsRange (cursor : Cursor) : Bool :=
  match cursor.rest with
  | '-' :: rest =>
    match skipIgnored cursor.verbose rest with
    | ']' :: _ => false
    | '-' :: _ => false
    | _ => true
  | _ => false

/-- Reads an item of a bracket: an atom, or a range between two characters. -/
def readClassItem (cursor : Cursor) : Option (ClassSet × Cursor) := do
  let (first, cursor) ← readClassAtom cursor
  let cursor := cursor.skip
  if cursor.rest.isEmpty then none
  else if startsRange cursor then
    let cursor := (cursor.at (cursor.rest.drop 1)).skip
    let (last, cursor) ← readClassAtom cursor
    match first, last with
    | .literal first, .literal last =>
      if first.code ≤ last.code then some (.range first last, cursor) else none
    | _, _ => none
  else
    let item ← first.toClassSet?
    pure (item, cursor)

/-- A finished operand, joined to the operation that waits for it. -/
def closeOperation (waiting : Option (SetOperation × ClassSet)) (right : ClassSet) : ClassSet :=
  match waiting with
  | some (operation, left) => .operation operation left right
  | none => right

def setOperation? : List Char → Option (SetOperation × List Char)
  | '&' :: '&' :: rest => some (.intersection, rest)
  | '-' :: '-' :: rest => some (.difference, rest)
  | '~' :: '~' :: rest => some (.symmetricDifference, rest)
  | _ => none

def leadingHyphens (verbose : Bool) : Nat → List Char → List ClassSet × List Char
  | fuel + 1, '-' :: rest =>
    let (items, rest) := leadingHyphens verbose fuel (skipIgnored verbose rest)
    (.literal ⟨'-'.toNat, false⟩ :: items, rest)
  | _, cs => ([], cs)

mutual

def readBracket : Nat → Cursor → Option (ClassSet × Bool × Cursor)
  | 0, _ => none
  | fuel + 1, cursor =>
    let cursor := cursor.skip
    let (negated, cursor) := match cursor.rest with
      | '^' :: rest => (true, (cursor.at rest).skip)
      | _ => (false, cursor)
    let (hyphens, rest) := leadingHyphens cursor.verbose cursor.rest.length cursor.rest
    let cursor := cursor.at rest
    let (items, cursor) := match hyphens, cursor.rest with
      | [], ']' :: rest => ([.literal ⟨']'.toNat, false⟩], (cursor.at rest).skip)
      | _, _ => (hyphens.reverse, cursor)
    do
      let (set, cursor) ← readSet fuel items none cursor
      pure (set, negated, cursor)

/-- Reads the rest of a bracket: `items` have been read, last first, and `waiting` is an operation
with its left operand. -/
def readSet : Nat → List ClassSet → Option (SetOperation × ClassSet) → Cursor →
    Option (ClassSet × Cursor)
  | 0, _, _, _ => none
  | fuel + 1, items, waiting, cursor =>
    let cursor := cursor.skip
    let finished := closeOperation waiting (.ofItems items.reverse)
    match cursor.rest with
    | [] => none
    | '[' :: rest =>
      match asciiClass? rest with
      | some (item, rest) => readSet fuel (item :: items) waiting (cursor.at rest)
      | none => do
        let (set, negated, cursor) ← readBracket fuel (cursor.at rest)
        readSet fuel (.bracketed set negated :: items) waiting cursor
    | ']' :: rest => some (finished, cursor.at rest)
    | rest =>
      match setOperation? rest with
      | some (operation, rest) => readSet fuel [] (some (operation, finished)) (cursor.at rest)
      | none => do
        let (item, cursor) ← readClassItem cursor
        readSet fuel (item :: items) waiting cursor

end

def flag? (c : Char) : Option Flag :=
  if c = 'i' then some .caseless
  else if c = 'm' then some .multiLine
  else if c = 's' then some .dotAll
  else if c = 'U' then some .swapGreed
  else if c = 'u' then some .unicode
  else if c = 'R' then some .crlf
  else if c = 'x' then some .verbose
  else none

/-- Reads flags up to the colon or the closing parenthesis behind them, which is also given back. A
flag may not be named twice, and a minus sign needs flags behind it. -/
def readFlags : FlagChange → (negated dangling : Bool) → List Char →
    Option (FlagChange × Char × List Char)
  | _, _, _, [] => none
  | change, negated, dangling, c :: cs =>
    if c = ':' || c = ')' then if dangling then none else some (change, c, cs)
    else if c = '-' then if negated then none else readFlags change true true cs
    else
      match flag? c with
      | none => none
      | some flag =>
        if change.on.contains flag || change.off.contains flag then none
        else if negated then readFlags { change with off := flag :: change.off } true false cs
        else readFlags { change with on := flag :: change.on } false false cs

/-- Whether a character may stand in a group name, as its first or further on. -/
def isNameChar (first : Bool) (c : Char) : Bool :=
  if first then c == '_' || Text.isAlphabetic c.toNat
  else c == '_' || c == '.' || c == '[' || c == ']' || Text.isAlphanumeric c.toNat

def readName (cs : List Char) : Option (List Char × List Char) :=
  match cs.span (· ≠ '>') with
  | (name, '>' :: rest) =>
    match name with
    | [] => none
    | c :: others =>
      if isNameChar true c && others.all (isNameChar false) then some (name, rest) else none
  | _ => none

/-- The decimal digits at the front, leaving out what is ignored between them. -/
def spanDigits (verbose : Bool) : Nat → List Char → List Char × List Char
  | fuel + 1, c :: cs =>
    if '0' ≤ c && c ≤ '9' then
      let (digits, rest) := spanDigits verbose fuel (skipIgnored verbose cs)
      (c :: digits, rest)
    else ([], c :: cs)
  | _, cs => ([], cs)

def skipBlanks (verbose : Bool) : Nat → List Char → List Char
  | fuel + 1, c :: cs =>
    if Text.isBlank c then skipBlanks verbose fuel (skipIgnored verbose cs) else c :: cs
  | _, cs => cs

/-- Reads a number in decimal digits with blanks around it, below 2^32. -/
def readDecimal (verbose : Bool) (cs : List Char) : Option (Nat × List Char) :=
  let cs := cs.dropWhile Text.isBlank
  let (digits, rest) := spanDigits verbose cs.length cs
  let n := digits.foldl (fun n c => 10 * n + (c.toNat - '0'.toNat)) 0
  if digits.isEmpty || 0x100000000 ≤ n then none else some (n, skipBlanks verbose rest.length rest)

/-- Reads the bounds of a repetition after its opening brace, through the closing one. -/
def readBounds (verbose : Bool) (cs : List Char) : Option ((Nat × Option Nat) × List Char) := do
  let (least, rest) ← readDecimal verbose (skipIgnored verbose cs)
  match rest with
  | '\x7d' :: rest => some ((least, some least), rest)
  | ',' :: rest =>
    match skipIgnored verbose rest with
    | '\x7d' :: rest => some ((least, none), rest)
    | rest => do
      let (most, rest) ← readDecimal verbose rest
      match rest with
      | '\x7d' :: rest => if least ≤ most then some ((least, some most), rest) else none
      | _ => none
  | _ => none

def dropLazy : List Char → List Char
  | '?' :: rest => rest
  | rest => rest

/-- Repeats the last item. There must be one, and it must not be a change of flags. -/
def repeatLast (least : Nat) (most : Option Nat) : List Expression → Option (List Expression)
  | [] => none
  | .empty :: _ => none
  | .flags _ :: _ => none
  | item :: items => some (.repeat item least most :: items)

inductive GroupStart where
  /-- Flags for the rest of the enclosing group. -/
  | flags (change : FlagChange) (cursor : Cursor)
  /-- A group with its own flags. -/
  | group (change : FlagChange) (cursor : Cursor)

/-- The verbosity after a change of flags. -/
def Cursor.apply (cursor : Cursor) (change : FlagChange) : Cursor :=
  { cursor with verbose := (change.state? .verbose).getD cursor.verbose }

/-- Reads the start of a group with a name after its opening angle bracket. No two groups may have
the same name. -/
def readNamedStart (cursor : Cursor) (rest : List Char) : Option GroupStart := do
  let (name, rest) ← readName rest
  if cursor.names.contains name then none
  else some (.group {} { cursor with rest, names := name :: cursor.names })

/-- Reads the start of a group after its parenthesis. Looking around is not supported. -/
def readGroupStart (cursor : Cursor) : Option GroupStart :=
  match cursor.rest with
  | '?' :: '=' :: _ => none
  | '?' :: '!' :: _ => none
  | '?' :: '<' :: '=' :: _ => none
  | '?' :: '<' :: '!' :: _ => none
  | '?' :: 'P' :: '<' :: rest => readNamedStart cursor rest
  | '?' :: '<' :: rest => readNamedStart cursor rest
  | '?' :: rest => do
    let (change, stop, rest) ← readFlags {} false false rest
    if stop = ')' then
      if change.on.isEmpty && change.off.isEmpty then none
      else some (.flags change ((cursor.at rest).apply change))
    else some (.group change ((cursor.at rest).apply change))
  | _ => some (.group {} cursor)

def Atom.toExpression : Atom → Expression
  | .literal value => .literal value
  | .shorthand name negated => .shorthand name negated
  | .property p negated => .property p negated
  | .anchor a => .anchor a

def readPrimitive (cursor : Cursor) : Option (Expression × Cursor) :=
  match cursor.rest with
  | [] => none
  | '\\' :: rest => do
    let (atom, rest) ← readEscape cursor.verbose rest
    pure (atom.toExpression, cursor.at rest)
  | '.' :: rest => some (.dot, cursor.at rest)
  | '^' :: rest => some (.anchor .caret, cursor.at rest)
  | '$' :: rest => some (.anchor .dollar, cursor.at rest)
  | c :: rest => some (.literal ⟨c.toNat, false⟩, cursor.at rest)

/-- Reads up to the end of a group or of the pattern. `items` of the current branch and `branches`
before it have been read, both last first. -/
def readBranches : Nat → List Expression → List Expression → Cursor → Option (Expression × Cursor)
  | 0, _, _, _ => none
  | fuel + 1, branches, items, cursor =>
    let cursor := cursor.skip
    let branch := Expression.ofItems items.reverse
    let finished := Expression.ofBranches (branch :: branches).reverse
    match cursor.rest with
    | [] => some (finished, cursor)
    | ')' :: _ => some (finished, cursor)
    | '|' :: rest => readBranches fuel (branch :: branches) [] (cursor.at rest)
    | '(' :: rest => do
      match ← readGroupStart (cursor.at rest).skip with
      | .flags change cursor => readBranches fuel branches (.flags change :: items) cursor
      | .group change inside =>
        let (body, inside) ← readBranches fuel [] [] inside
        match inside.rest with
        | ')' :: rest =>
          readBranches fuel branches (.group change body :: items)
            { inside with rest, verbose := cursor.verbose }
        | _ => none
    | '[' :: rest => do
      let (set, negated, cursor) ← readBracket fuel (cursor.at rest)
      readBranches fuel branches (.bracketed set negated :: items) cursor
    | '?' :: rest => do
      let items ← repeatLast 0 (some 1) items
      readBranches fuel branches items (cursor.at (dropLazy rest))
    | '*' :: rest => do
      let items ← repeatLast 0 none items
      readBranches fuel branches items (cursor.at (dropLazy rest))
    | '+' :: rest => do
      let items ← repeatLast 1 none items
      readBranches fuel branches items (cursor.at (dropLazy rest))
    | '\x7b' :: rest => do
      let ((least, most), rest) ← readBounds cursor.verbose rest
      let items ← repeatLast least most items
      readBranches fuel branches items (cursor.at (dropLazy (skipIgnored cursor.verbose rest)))
    | _ => do
      let (item, cursor) ← readPrimitive cursor
      readBranches fuel branches (item :: items) cursor

def read? (pattern : List Char) : Option Expression := do
  let (expression, cursor) ← readBranches (4 * pattern.length + 4) [] [] { rest := pattern }
  if cursor.rest.isEmpty && expression.depth ≤ Expression.nestingLimit then some expression
  else none

end DeclTree.Pattern

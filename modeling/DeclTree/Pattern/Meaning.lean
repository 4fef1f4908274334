import DeclTree.Pattern.Parser

/-!
# The meaning of patterns

Flags are applied from left to right: a change of flags holds to the end of the group it stands in,
across the branches of an alternation. With the flag for Unicode off, classes are sets of bytes, and
what could match a part of an encoded character is refused, and so is every mention of properties.
-/

namespace DeclTree.Pattern

open Matcher (Symbols Look)

/-- The flags in force. Greed and verbosity do not matter for the meaning. -/
structure Flags where
  caseless : Bool := false
  multiLine : Bool := false
  dotAll : Bool := false
  unicode : Bool := true
  crlf : Bool := false

def Flags.apply (flags : Flags) (change : FlagChange) : Flags where
  caseless := (change.state? .caseless).getD flags.caseless
  multiLine := (change.state? .multiLine).getD flags.multiLine
  dotAll := (change.state? .dotAll).getD flags.dotAll
  unicode := (change.state? .unicode).getD flags.unicode
  crlf := (change.state? .crlf).getD flags.crlf

def asciiWord : Symbols := .ofRanges [(0x30, 0x39), (0x41, 0x5A), (0x5F, 0x5F), (0x61, 0x7A)]

def Flags.wordChars (flags : Flags) : Symbols :=
  if flags.unicode then .property .word else asciiWord

/-- Everything not in a set, or the set; bytes outside ASCII are no characters, so that with Unicode
off there is no complement. -/
def Flags.negate? (flags : Flags) (negated : Bool) (set : Symbols) : Option Symbols :=
  if negated then if flags.unicode then some (.complement set) else none else some set

/-- The set with all its variants in case, if case does not count. -/
def Flags.fold (flags : Flags) (set : Symbols) : Symbols :=
  if flags.caseless then if flags.unicode then .caseless set else .caselessAscii set else set

def Shorthand.symbols (flags : Flags) : Shorthand → Symbols
  | .digit => if flags.unicode then .property (.category "Nd") else .range 0x30 0x39
  | .space =>
    if flags.unicode then .property .blank else .ofRanges [(0x9, 0xD), (0x20, 0x20)]
  | .word => flags.wordChars

/-- The code of a character; with Unicode off a byte outside ASCII has none. -/
def Flags.code? (flags : Flags) (literal : Literal) : Option Nat :=
  if !flags.unicode && literal.byte && 0x80 ≤ literal.code then none else some literal.code

/-- The code of a character in a bracket; with Unicode off it must be ASCII. -/
def Flags.classCode? (flags : Flags) (literal : Literal) : Option Nat :=
  if !flags.unicode && 0x80 ≤ literal.code then none else some literal.code

mutual

def ClassSet.symbols? (flags : Flags) : ClassSet → Option Symbols
  | .literal value => (flags.classCode? value).map .one
  | .range first last => do
    pure (.range (← flags.classCode? first) (← flags.classCode? last))
  | .shorthand name negated => flags.negate? negated (name.symbols flags)
  | .ascii ranges negated => flags.negate? negated (flags.fold (.ofRanges ranges))
  | .property p negated =>
    if flags.unicode then flags.negate? negated (flags.fold (.property p)) else none
  | .bracketed set negated => do
    flags.negate? negated (flags.fold (← set.symbols? flags))
  | .union items => ClassSet.unionOf? flags items
  | .operation op left right => do
    let left := flags.fold (← left.symbols? flags)
    let right := flags.fold (← right.symbols? flags)
    match op with
    | .intersection => pure (.intersection left right)
    | .difference => pure (.difference left right)
    | .symmetricDifference => pure (.symmetricDifference left right)

def ClassSet.unionOf? (flags : Flags) : List ClassSet → Option Symbols
  | [] => some .none
  | item :: items => do
    pure (.union (← item.symbols? flags) (← ClassSet.unionOf? flags items))

end

def Anchor.look (flags : Flags) : Anchor → Look
  | .caret =>
    if flags.multiLine then if flags.crlf then .lineStartCrlf else .lineStart else .textStart
  | .dollar => if flags.multiLine then if flags.crlf then .lineEndCrlf else .lineEnd else .textEnd
  | .textStart => .textStart
  | .textEnd => .textEnd
  | .wordEdge edge => .word edge flags.wordChars

/-- The characters a dot matches: all, or all that do not end a line. -/
def Flags.dot? (flags : Flags) : Option Symbols :=
  if !flags.unicode then none
  else if flags.dotAll then some (.property .any)
  else if flags.crlf then some (.complement (.ofRanges [(0xA, 0xA), (0xD, 0xD)]))
  else some (.complement (.one 0xA))

/-- A character, in both cases if case does not count. -/
def Flags.literal? (flags : Flags) (value : Literal) : Option Matcher := do
  let code ← flags.code? value
  if flags.caseless && (flags.unicode || code < 0x80) then
    pure (.symbol (flags.fold (.one code)))
  else pure (.literal code)

mutual

/-- The matcher a pattern stands for, and the flags in force after it. -/
def Expression.meaning? (flags : Flags) : Expression → Option (Matcher × Flags)
  | .empty => some (.empty, flags)
  | .flags change => some (.empty, flags.apply change)
  | .literal value => (flags.literal? value).map (·, flags)
  | .dot => flags.dot?.map fun set => (.symbol set, flags)
  | .anchor a => some (.look (a.look flags), flags)
  | .shorthand name negated =>
    (flags.negate? negated (name.symbols flags)).map fun set => (.symbol set, flags)
  | .property p negated =>
    if flags.unicode then
      (flags.negate? negated (flags.fold (.property p))).map fun set => (.symbol set, flags)
    else none
  | .bracketed set negated => do
    let set ← flags.negate? negated (flags.fold (← set.symbols? flags))
    pure (.symbol set, flags)
  | .repeat body least most => do
    let (body, flags) ← body.meaning? flags
    pure (.repeat body least most, flags)
  | .group change body => do
    let (body, _) ← body.meaning? (flags.apply change)
    pure (body, flags)
  | .alternation branches => do
    let (branches, flags) ← Expression.meanings? flags branches
    pure (.choice branches, flags)
  | .concat items => do
    let (items, flags) ← Expression.meanings? flags items
    pure (.sequence items, flags)

/-- The matchers of a list of patterns, flags passing from each to the next. -/
def Expression.meanings? (flags : Flags) : List Expression → Option (List Matcher × Flags)
  | [] => some ([], flags)
  | item :: items => do
    let (item, flags) ← item.meaning? flags
    let (items, flags) ← Expression.meanings? flags items
    pure (item :: items, flags)

end

end DeclTree.Pattern

import DeclTree.Matcher.Search

/-!
# Patterns as written

The structure of a search pattern before flags have been applied: what the reader of patterns makes
and what a meaning is given to. Brackets nest, and a pattern nested deeper than
`Expression.nestingLimit` is refused.
-/

namespace DeclTree.Pattern

/-- What a flag letter switches. -/
inductive Flag where
  | caseless
  | multiLine
  | dotAll
  | swapGreed
  | unicode
  | crlf
  | verbose
deriving DecidableEq, Repr

/-- Flags switched on and off together. -/
structure FlagChange where
  on : List Flag := []
  off : List Flag := []

/-- What a change does to one flag, if it names it. -/
def FlagChange.state? (change : FlagChange) (flag : Flag) : Option Bool :=
  if change.on.contains flag then some true
  else if change.off.contains flag then some false
  else none

structure Literal where
  code : Nat
  /-- Written with two hexadecimal digits, and so able to stand for a byte. -/
  byte : Bool := false

/-- The classes named by one letter. -/
inductive Shorthand where
  | digit
  | space
  | word
deriving DecidableEq, Repr

inductive SetOperation where
  | intersection
  | difference
  | symmetricDifference
deriving DecidableEq, Repr

inductive ClassSet where
  | literal (value : Literal)
  | range (first last : Literal)
  | shorthand (name : Shorthand) (negated : Bool)
  /-- A class of ASCII characters by its name, here already as ranges. -/
  | ascii (ranges : List (Nat × Nat)) (negated : Bool)
  | property (property : Matcher.Property) (negated : Bool)
  | bracketed (set : ClassSet) (negated : Bool)
  | union (items : List ClassSet)
  | operation (operation : SetOperation) (left right : ClassSet)
deriving Inhabited

/-- Conditions on a place, before flags decide what a line or a word is. -/
inductive Anchor where
  | caret
  | dollar
  | textStart
  | textEnd
  | wordEdge (edge : Matcher.WordEdge)

inductive Expression where
  | empty
  /-- Flags for the rest of the group. -/
  | flags (change : FlagChange)
  | literal (value : Literal)
  | dot
  | anchor (anchor : Anchor)
  | shorthand (name : Shorthand) (negated : Bool)
  | property (property : Matcher.Property) (negated : Bool)
  | bracketed (set : ClassSet) (negated : Bool)
  | «repeat» (body : Expression) (least : Nat) (most : Option Nat)
  /-- A group with flags of its own. -/
  | group (change : FlagChange) (body : Expression)
  | alternation (branches : List Expression)
  | concat (items : List Expression)
deriving Inhabited

/-- The items of a bracket as one set. -/
def ClassSet.ofItems : List ClassSet → ClassSet
  | [item] => item
  | items => .union items

def Expression.ofItems : List Expression → Expression
  | [] => .empty
  | [item] => item
  | items => .concat items

def Expression.ofBranches : List Expression → Expression
  | [branch] => branch
  | branches => .alternation branches

mutual

/-- How deep brackets and set operations nest. -/
def ClassSet.depth : ClassSet → Nat
  | .bracketed set _ => 1 + set.depth
  | .union [] => 0
  | .union items => 1 + ClassSet.depthAll items
  | .operation _ left right => 1 + max left.depth right.depth
  | _ => 0

def ClassSet.depthAll : List ClassSet → Nat
  | [] => 0
  | item :: items => max item.depth (ClassSet.depthAll items)

end

mutual

def Expression.depth : Expression → Nat
  | .bracketed set _ => 1 + set.depth
  | .repeat body _ _ => 1 + body.depth
  | .group _ body => 1 + body.depth
  | .alternation branches => 1 + Expression.depthAll branches
  | .concat items => 1 + Expression.depthAll items
  | _ => 0

def Expression.depthAll : List Expression → Nat
  | [] => 0
  | item :: items => max item.depth (Expression.depthAll items)

end

/-- The deepest nesting of an accepted pattern. -/
def Expression.nestingLimit : Nat := 250

end DeclTree.Pattern

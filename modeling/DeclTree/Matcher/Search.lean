import DeclTree.Matcher.Symbols

/-!
# Matchers

A matcher is a regular expression over symbols. It is run by sets of places in a text, which are
kept as one mark for each place, first place first: a matcher sends the places where a match may
start to the places where it may then end. How greedy a repetition is makes no difference to whether
there is a match, so it is not recorded.
-/

namespace DeclTree

/-- A place in a text: the symbols on its two sides. -/
structure Matcher.Place where
  before : Option Nat
  after : Option Nat

namespace Matcher

/-- The ways in which a place can lie at the edge of a word. -/
inductive WordEdge where
  | boundary
  | inside
  | start
  | «end»
  /-- No word before the place. -/
  | startHalf
  /-- No word after the place. -/
  | endHalf
deriving DecidableEq, Repr

inductive Look where
  | textStart
  | textEnd
  | lineStart
  | lineEnd
  /-- As `lineStart`, where a carriage return with or without a line feed also ends a line. -/
  | lineStartCrlf
  | lineEndCrlf
  /-- An edge of a word, whose characters are given. -/
  | word (edge : WordEdge) (characters : Symbols)

def isIn (set : Symbols) : Option Nat → Bool
  | none => false
  | some n => set.contains n

/-- Whether a place lies at an edge of a word, given whether words stand before and after it. -/
def WordEdge.holds : WordEdge → Bool → Bool → Bool
  | .boundary, before, after => before != after
  | .inside, before, after => before == after
  | .start, before, after => !before && after
  | .end, before, after => before && !after
  | .startHalf, before, _ => !before
  | .endHalf, _, after => !after

def Look.holds : Look → Place → Bool
  | .textStart, place => place.before.isNone
  | .textEnd, place => place.after.isNone
  | .lineStart, place => place.before.isNone || place.before == some 0xA
  | .lineEnd, place => place.after.isNone || place.after == some 0xA
  | .lineStartCrlf, place =>
    place.before.isNone || place.before == some 0xA ||
      (place.before == some 0xD && place.after != some 0xA)
  | .lineEndCrlf, place =>
    place.after.isNone || place.after == some 0xD ||
      (place.after == some 0xA && place.before != some 0xD)
  | .word edge characters, place =>
    edge.holds (isIn characters place.before) (isIn characters place.after)

end Matcher

inductive Matcher where
  | empty
  | symbol (set : Matcher.Symbols)
  | look (condition : Matcher.Look)
  | concat (first second : Matcher)
  | either (first second : Matcher)
  /-- At least `least` times and, if there is a bound, at most that often. -/
  | «repeat» (body : Matcher) (least : Nat) (most : Option Nat)
deriving Inhabited

namespace Matcher

/-- One mark for every place of a text. -/
abbrev Marks := List Bool

/-- The places of a text that continues after a symbol, if there is one before it. -/
def placesFrom (before : Option Nat) : List Nat → List Place
  | [] => [⟨before, none⟩]
  | n :: ns => ⟨before, some n⟩ :: placesFrom (some n) ns

/-- All places of a text, one more than it has symbols. -/
def places (text : List Nat) : List Place := placesFrom none text

def union (a b : Marks) : Marks := List.zipWith (· || ·) a b

/-- The marked places where a condition holds. -/
def restrict (holds : Place → Bool) (places : List Place) (marks : Marks) : Marks :=
  List.zipWith (fun mark place => mark && holds place) marks places

/-- The places right after a symbol of the set that follows a marked place. -/
def advance (set : Symbols) (places : List Place) (marks : Marks) : Marks :=
  false :: (restrict (fun place => isIn set place.after) places marks).dropLast

/-- The step applied a number of times. -/
def power (step : Marks → Marks) : Nat → Marks → Marks
  | 0, marks => marks
  | n + 1, marks => power step n (step marks)

/-- The places reached by applying the step at most a number of times. -/
def spread (step : Marks → Marks) : Nat → Marks → Marks
  | 0, marks => marks
  | n + 1, marks =>
    let more := union marks (step marks)
    if more = marks then marks else spread step n more

/-- The places where a match that starts at a marked place may end. Among more repetitions than the
text has places one matches nothing, so counts beyond that are cut off without changing the
result. -/
def ends : Matcher → List Place → Marks → Marks
  | .empty, _, marks => marks
  | .symbol set, places, marks => advance set places marks
  | .look condition, places, marks => restrict condition.holds places marks
  | .concat first second, places, marks => second.ends places (first.ends places marks)
  | .either first second, places, marks =>
    union (first.ends places marks) (second.ends places marks)
  | .repeat body least most, places, marks =>
    let reached := power (body.ends places) (min least places.length) marks
    let rest := most.elim places.length fun most => min (most - least) places.length
    spread (body.ends places) rest reached

def matchesPart (r : Matcher) (text : List Nat) : Bool :=
  let places := places text
  (r.ends places (places.map fun _ => true)).any id

def matchesAll (r : Matcher) (text : List Nat) : Bool :=
  matchesPart (.concat (.look .textStart) (.concat r (.look .textEnd))) text

def sequence (rs : List Matcher) : Matcher := rs.foldr .concat .empty

/-- One of several matchers; a choice among none matches nothing. -/
def choice : List Matcher → Matcher
  | [] => .symbol .none
  | [r] => r
  | r :: rs => .either r (choice rs)

def literal (n : Nat) : Matcher := .symbol (.one n)

end Matcher

end DeclTree

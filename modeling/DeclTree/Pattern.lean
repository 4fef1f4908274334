import DeclTree.Error
import DeclTree.Pattern.Meaning

/-!
# Search patterns

A compiled pattern searches a text for a match anywhere in it. Repetitions unfold when a pattern is
compiled, and one that would need more than `Pattern.stateLimit` states is refused.
-/

namespace DeclTree

/-- The states that a set of symbols takes, by the order of magnitude of its tables. -/
def Matcher.Symbols.states : Matcher.Symbols → Nat
  | .none => 1
  | .range _ last => if last < 0x80 then 1 else if last < 0x10000 then 4 else 8
  | .property .any => 8
  | .property .ascii => 1
  | .property .blank => 8
  | .property (.script _) => 50
  | .property (.category "Nd") => 150
  | .property _ => 1500
  | .union a b => max a.states b.states
  | .intersection a b => max a.states b.states
  | .difference a b => max a.states b.states
  | .symmetricDifference a b => max a.states b.states
  | .complement a => max 8 a.states
  | .caseless a => a.states
  | .caselessAscii a => a.states

/-- The states that a matcher takes once its repetitions are unfolded. -/
def Matcher.states : Matcher → Nat
  | .empty => 1
  | .symbol set => set.states
  | .look _ => 1
  | .concat first second => first.states + second.states
  | .either first second => first.states + second.states + 1
  | .repeat body least none => (least + 1) * body.states + 1
  | .repeat body least (some most) => least * body.states + (most - least) * (body.states + 1)

structure Pattern where
  matcher : Matcher

namespace Pattern

/-- The states that a compiled pattern may have. -/
def stateLimit : Nat := 327680

/-- Compiles a pattern, with or without regard to case. -/
def compile? (pattern : String) (ignoreCase : Bool) : Option Pattern := do
  let expression ← read? pattern.toList
  let (matcher, _) ← expression.meaning? { caseless := ignoreCase }
  if matcher.states ≤ stateLimit then some ⟨matcher⟩ else none

/-- Compiles a pattern, or names it as no pattern. -/
def compile (pattern : String) (ignoreCase : Bool) : Except Error Pattern :=
  match compile? pattern ignoreCase with
  | some p => .ok p
  | none => .error (.invalidFilterValue .pattern pattern)

def occursIn (p : Pattern) (text : String) : Bool :=
  p.matcher.matchesPart (text.toList.map Char.toNat)

end Pattern

end DeclTree

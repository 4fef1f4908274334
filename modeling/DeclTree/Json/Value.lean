/-!
# JSON values

Values as their text presents them: numbers keep their spelling, objects keep their members in order
and with repetitions. A string literal that escapes half of a surrogate pair is well-formed JSON but
denotes no text; it is kept as `none`, and so is such a member name.
-/

namespace DeclTree

inductive Json where
  | null
  | bool (value : Bool)
  | number (text : String)
  | string (text : Option String)
  | array (items : List Json)
  | object (members : List (Option String × Json))
deriving Inhabited

namespace Json

/-- A string value that denotes a text. -/
def text (s : String) : Json := .string (some s)

def nat (n : Nat) : Json := .number (toString n)

/-- An object whose member names denote texts. -/
def fields (members : List (String × Json)) : Json :=
  .object (members.map fun m => (some m.1, m.2))

mutual

/-- How many arrays and objects are open at the deepest place of a value. -/
def nesting : Json → Nat
  | .array items => 1 + nestingItems items
  | .object members => 1 + nestingMembers members
  | _ => 0

def nestingItems : List Json → Nat
  | [] => 0
  | item :: items => max (nesting item) (nestingItems items)

def nestingMembers : List (Option String × Json) → Nat
  | [] => 0
  | (_, value) :: members => max (nesting value) (nestingMembers members)

end

/-- The text a string value denotes. -/
def text? : Json → Option String
  | .string text => text
  | _ => none

def bool? : Json → Option Bool
  | .bool value => some value
  | _ => none

/-- The natural number a value spells out in digits. -/
def nat? : Json → Option Nat
  | .number text =>
    if text.toList.all Char.isDigit then
      some (text.toList.foldl (fun n c => 10 * n + (c.toNat - '0'.toNat)) 0)
    else none
  | _ => none

def valuesOf (name : String) (members : List (Option String × Json)) : List Json :=
  members.filterMap fun m => if m.1 = some name then some m.2 else none

/-- The value of the first member with a name, if the value is an object. -/
def get? (name : String) : Json → Option Json
  | .object members => (valuesOf name members).head?
  | _ => none

/-- Reads a value as a record with the given field names. An object may have its members in any
order and others beside them, but no field twice and no name that denotes no text; an array holds
the fields in order and may stop early. Missing fields are `none`. -/
def record (names : List String) : Json → Option (List (Option Json))
  | .array items =>
    if items.length ≤ names.length then
      some (items.map some ++ List.replicate (names.length - items.length) none)
    else none
  | .object members =>
    if members.all (fun m => m.1.isSome) &&
        names.all (fun name => (valuesOf name members).length ≤ 1) then
      some (names.map fun name => (valuesOf name members).head?)
    else none
  | _ => none

/-- The word of an enumeration, written as a string or as an object whose only member has the word
as its name and null as its value. The object counts as opened. -/
def word? (room : Nat) : Json → Option String
  | .string text => text
  | .object [(name, .null)] => if room = 0 then none else name
  | _ => none

end Json

end DeclTree

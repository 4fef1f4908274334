import DeclTree.Json.Value

/-!
# Writing JSON

Two layouts of the same text: without any blanks, and one member or item a line with two spaces of
indentation a level. A string is written with the quote, the backslash and the characters below
U+0020 escaped, and everything else as it is.
-/

namespace DeclTree.Json

/-- The lower-case hexadecimal digit of a number below sixteen. -/
def hexDigit (n : Nat) : Char := if n < 10 then Char.ofNat (0x30 + n) else Char.ofNat (0x57 + n)

/-- A character as it stands in a string literal. -/
def escapeChar (c : Char) : List Char :=
  if c = '"' then ['\\', '"']
  else if c = '\\' then ['\\', '\\']
  else if c = '\x08' then ['\\', 'b']
  else if c = '\x0c' then ['\\', 'f']
  else if c = '\n' then ['\\', 'n']
  else if c = '\r' then ['\\', 'r']
  else if c = '\t' then ['\\', 't']
  else if c.toNat < 0x20 then
    ['\\', 'u', '0', '0', hexDigit (c.toNat / 16), hexDigit (c.toNat % 16)]
  else [c]

/-- A text between quotes, with its special characters escaped. -/
def quote (s : String) : String :=
  "\"" ++ String.ofList (s.toList.flatMap escapeChar) ++ "\""

/-- A string value; one that denotes no text is written with an unpaired surrogate. -/
def quoteText : Option String → String
  | some s => quote s
  | none => "\"\\ud800\""

mutual

def compact : Json → String
  | .null => "null"
  | .bool value => if value then "true" else "false"
  | .number text => text
  | .string text => quoteText text
  | .array items => "[" ++ compactItems items ++ "]"
  | .object members => "\x7b" ++ compactMembers members ++ "\x7d"

def compactItems : List Json → String
  | [] => ""
  | [item] => compact item
  | item :: next :: items => compact item ++ "," ++ compactItems (next :: items)

def compactMembers : List (Option String × Json) → String
  | [] => ""
  | [(name, value)] => quoteText name ++ ":" ++ compact value
  | (name, value) :: next :: members =>
    quoteText name ++ ":" ++ compact value ++ "," ++ compactMembers (next :: members)

end

/-- The start of a line at a level of indentation. -/
def newLine (level : Nat) : String := "\n" ++ String.ofList (List.replicate (2 * level) ' ')

mutual

/-- The text of a value with one member or item a line; `level` is how deep the value stands. -/
def prettyAt (level : Nat) : Json → String
  | .null => "null"
  | .bool value => if value then "true" else "false"
  | .number text => text
  | .string text => quoteText text
  | .array [] => "[]"
  | .array items => "[" ++ prettyItems (level + 1) items ++ newLine level ++ "]"
  | .object [] => "\x7b\x7d"
  | .object members => "\x7b" ++ prettyMembers (level + 1) members ++ newLine level ++ "\x7d"

def prettyItems (level : Nat) : List Json → String
  | [] => ""
  | [item] => newLine level ++ prettyAt level item
  | item :: next :: items =>
    newLine level ++ prettyAt level item ++ "," ++ prettyItems level (next :: items)

def prettyMembers (level : Nat) : List (Option String × Json) → String
  | [] => ""
  | [(name, value)] => newLine level ++ quoteText name ++ ": " ++ prettyAt level value
  | (name, value) :: next :: members =>
    newLine level ++ quoteText name ++ ": " ++ prettyAt level value ++ "," ++
      prettyMembers level (next :: members)

end

def pretty (json : Json) : String := prettyAt 0 json

end DeclTree.Json

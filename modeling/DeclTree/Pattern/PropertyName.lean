import DeclTree.Matcher.Symbols
import DeclTree.Text.Split

/-!
# Names of character properties

The names by which a pattern may ask for a property: general categories and scripts by their short
and long names, and a few properties that hold or do not hold. Case, blanks, hyphens and underscores
in a name do not count, and neither does a leading "is".
-/

namespace DeclTree.Pattern

open Matcher (Property)

/-- The general categories: the abbreviation, then every name in lower case and without
underscores. -/
def categoryNames : List (String × List String) :=
  [("C", ["c", "other"]), ("Cc", ["cc", "control", "cntrl"]), ("Cf", ["cf", "format"]),
    ("Cn", ["cn", "unassigned"]), ("Co", ["co", "privateuse"]), ("Cs", ["cs", "surrogate"]),
    ("L", ["l", "letter"]), ("Ll", ["ll", "lowercaseletter"]), ("Lm", ["lm", "modifierletter"]),
    ("Lo", ["lo", "otherletter"]), ("Lt", ["lt", "titlecaseletter"]),
    ("Lu", ["lu", "uppercaseletter"]), ("M", ["m", "mark", "combiningmark"]),
    ("Mc", ["mc", "spacingmark"]), ("Me", ["me", "enclosingmark"]),
    ("Mn", ["mn", "nonspacingmark"]), ("N", ["n", "number"]),
    ("Nd", ["nd", "decimalnumber", "digit"]), ("Nl", ["nl", "letternumber"]),
    ("No", ["no", "othernumber"]), ("P", ["p", "punctuation", "punct"]),
    ("Pc", ["pc", "connectorpunctuation"]), ("Pd", ["pd", "dashpunctuation"]),
    ("Pe", ["pe", "closepunctuation"]), ("Pf", ["pf", "finalpunctuation"]),
    ("Pi", ["pi", "initialpunctuation"]), ("Po", ["po", "otherpunctuation"]),
    ("Ps", ["ps", "openpunctuation"]), ("S", ["s", "symbol"]), ("Sc", ["sc", "currencysymbol"]),
    ("Sk", ["sk", "modifiersymbol"]), ("Sm", ["sm", "mathsymbol"]), ("So", ["so", "othersymbol"]),
    ("Z", ["z", "separator"]), ("Zl", ["zl", "lineseparator"]),
    ("Zp", ["zp", "paragraphseparator"]), ("Zs", ["zs", "spaceseparator"])]

def plainProperties : List (String × Property) :=
  [("alphabetic", .alphabetic), ("alpha", .alphabetic), ("whitespace", .blank), ("space", .blank),
    ("wspace", .blank), ("cased", .cased), ("caseignorable", .caseIgnorable),
    ("ci", .caseIgnorable), ("uppercase", .uppercase), ("upper", .uppercase),
    ("lowercase", .lowercase), ("lower", .lowercase)]

def abbreviation? (table : List (String × List String)) (name : List Char) : Option String :=
  (table.find? fun entry => entry.2.any fun other => other.toList = name).map (·.1)

/-- A name without case, separators and a leading "is". -/
def looseName (name : List Char) : List Char :=
  let letters := (name.filter fun c =>
    !Text.isBlank c && c ≠ '-' && c ≠ '_' && c.toNat < 0x80).flatMap Text.lowerChar
  match letters with
  | 'i' :: 's' :: rest => if rest = ['c'] then letters else rest
  | _ => letters

/-- A general category by name, and the three sets that are named like one. -/
def categoryProperty? (name : List Char) : Option Property :=
  if name = "any".toList then some .any
  else if name = "ascii".toList then some .ascii
  else if name = "assigned".toList then some .assigned
  else if name = "lc".toList || name = "casedletter".toList then some .casedLetter
  else (abbreviation? categoryNames name).map .category

def scriptProperty? (name : List Char) : Option Property :=
  (abbreviation? Text.scriptNames name).map .script

def property? (name : List Char) : Option Property :=
  let name := looseName name
  (((plainProperties.find? fun entry => entry.1.toList = name).map (·.2)).or
    (categoryProperty? name)).or (scriptProperty? name)

def propertyOf? (family value : List Char) : Option Property :=
  let family := looseName family
  let value := looseName value
  if family = "gc".toList || family = "generalcategory".toList then categoryProperty? value
  else if family = "sc".toList || family = "script".toList || family = "scx".toList ||
      family = "scriptextensions".toList then scriptProperty? value
  else none

/-- What stands before and after the first occurrence of a mark. -/
def cutAt (mark : List Char) : List Char → Option (List Char × List Char)
  | [] => none
  | c :: cs =>
    if Text.startsWith mark (c :: cs) then some ([], (c :: cs).drop mark.length)
    else (cutAt mark cs).map fun parts => (c :: parts.1, parts.2)

/-- A property as it stands between braces: a name, or a family and a value separated by an equals
sign or a colon. The flag says whether `!=` asks for all other characters. -/
def propertyIn? (text : List Char) : Option (Property × Bool) :=
  match cutAt ['!', '='] text with
  | some (family, value) => (propertyOf? family value).map (·, true)
  | none =>
    match (cutAt [':'] text).or (cutAt ['='] text) with
    | some (family, value) => (propertyOf? family value).map (·, false)
    | none => (property? text).map (·, false)

end DeclTree.Pattern

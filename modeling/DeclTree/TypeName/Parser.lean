import DeclTree.Error
import DeclTree.Text.Blank
import DeclTree.Text.Split
import DeclTree.TypeName

/-!
# Reading type names

A type is a path with an optional bracketed list of arguments, or a parenthesised list, which is a
tuple. The path is the run of characters up to the next bracket or comma; in it blanks are
collapsed, `::` is a dot, and blanks beside a dot do not count. The last dot divides qualifier and
name, and the name may not be empty.

The readers take the rest of the text and give back what follows the part they read. They call each
other at most three times without consuming a character, so three steps per character and three more
are enough for every text.
-/

namespace DeclTree.TypeName

open Text

/-- The characters that end a path. -/
def isDelimiter (c : Char) : Bool :=
  c == '<' || c == '>' || c == ',' || c == '(' || c == ')'

/-- A path with blanks collapsed, `::` written as a dot, and no blanks beside dots. -/
def normalizePath (raw : List Char) : List Char :=
  joinWith '.' ((splitAt '.' (dotPairs (collapseBlanks raw))).map trim)

def spanPath (cs : List Char) : List Char × List Char := cs.span fun c => !isDelimiter c

/-- Qualifier and name of a normalised path: what stands before and after its last dot. -/
def splitPath (path : List Char) : List Char × List Char :=
  (splitLast '.' path).getD ([], path)

/-- The type with a given path and arguments, unless its name is empty. -/
def ofPath? (path : List Char) (args : List TypeName) : Option TypeName :=
  let (qualifier, name) := splitPath path
  if name.isEmpty then none else some ⟨String.ofList qualifier, String.ofList name, args⟩

mutual

def readType : Nat → List Char → Option (TypeName × List Char)
  | 0, _ => none
  | fuel + 1, cs =>
    match skipBlank cs with
    | '(' :: rest => do
      let (args, rest) ← readList fuel ')' rest
      pure (tuple args, rest)
    | cs =>
      let (raw, rest) := spanPath cs
      let path := normalizePath raw
      if path.isEmpty then none
      else
        match rest with
        | '<' :: rest => do
          let (args, rest) ← readList fuel '>' rest
          let type ← ofPath? path args
          pure (type, rest)
        | rest => do
          let type ← ofPath? path []
          pure (type, rest)

def readList : Nat → Char → List Char → Option (List TypeName × List Char)
  | 0, _, _ => none
  | fuel + 1, close, cs =>
    match skipBlank cs with
    | [] => none
    | c :: rest => if c = close then some ([], rest) else readItems fuel close (c :: rest)

/-- Reads one or more types separated by commas, through the closing bracket. -/
def readItems : Nat → Char → List Char → Option (List TypeName × List Char)
  | 0, _, _ => none
  | fuel + 1, close, cs => do
    let (item, rest) ← readType fuel cs
    match skipBlank rest with
    | [] => none
    | c :: rest =>
      if c = ',' then do
        let (items, rest) ← readItems fuel close rest
        pure (item :: items, rest)
      else if c = close then some ([item], rest)
      else none

end

/-- Reads a text that holds a type and nothing else but blanks around it. -/
def parse? (text : List Char) : Option TypeName :=
  match readType (3 * text.length + 3) text with
  | some (type, rest) => if (skipBlank rest).isEmpty then some type else none
  | none => none

def parse (text : String) : Except Error TypeName :=
  match parse? text.toList with
  | some type => .ok type
  | none => .error (.invalidFilterValue .type text)

/-- The types of a list of texts; the first text that is none decides the error. -/
def parseAll (texts : List String) : Except Error (List TypeName) := texts.mapM parse

end DeclTree.TypeName

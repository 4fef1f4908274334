import DeclTree.Files.Glob
import DeclTree.Text.Blank
import DeclTree.Text.Split

/-!
# Ignore rules

The lines of a file that says which entries to leave out. A line is a glob; an exclamation mark in
front keeps what it matches, a slash at the end restricts it to directories, and a slash anywhere
else ties it to the directory of the file. Lines that start with a hash and lines that are no globs
say nothing. Of the rules that match an entry the last one decides.
-/

namespace DeclTree

structure IgnoreRule where
  glob : Matcher
  /-- What matches is kept. -/
  negated : Bool
  directoryOnly : Bool

inductive Verdict where
  | ignore
  | keep
deriving DecidableEq, Repr

namespace IgnoreRule

def endsWith (ending cs : List Char) : Bool := Text.startsWith ending.reverse cs.reverse

/-- The marks in front of a rule: whether it is negated, whether it is tied to its directory, and
the rest. A backslash in front takes its meaning from an exclamation mark or a hash. -/
def readMarks : List Char → Bool × Bool × List Char
  | '\\' :: '!' :: cs => (false, false, '!' :: cs)
  | '\\' :: '#' :: cs => (false, false, '#' :: cs)
  | '!' :: '/' :: cs => (true, true, cs)
  | '!' :: cs => (true, false, cs)
  | '/' :: cs => (false, true, cs)
  | cs => (false, false, cs)

/-- The slash at the end of a rule for directories, which may be escaped, and the rest. -/
def readEnd (cs : List Char) : Bool × List Char :=
  match cs.reverse with
  | '/' :: '\\' :: rest => (true, rest.reverse)
  | '/' :: rest => (true, rest.reverse)
  | _ => (false, cs)

/-- The glob for a rule: a name alone may stand in any directory, and everything in a directory is
not the directory itself. -/
def globText (tied : Bool) (body : List Char) : List Char :=
  let text :=
    if tied || body.contains '/' || body = ['*', '*'] then body else ['*', '*', '/'] ++ body
  if endsWith ['/', '*', '*'] text then text ++ ['/', '*'] else text

/-- The rule of a line, if it has one. Blanks at the end do not count, unless the last is
escaped. -/
def ofLine? (line : List Char) : Option IgnoreRule :=
  let line := if endsWith ['\\', ' '] line then line else Text.trimEnd line
  if line.isEmpty || line.head? == some '#' then none
  else
    let (negated, tied, body) := readMarks line
    let (directoryOnly, body) := readEnd body
    (Glob.compile? (globText tied body)).map fun glob => ⟨glob, negated, directoryOnly⟩

/-- A line without the carriage return at its end. -/
def dropReturn (line : List UInt8) : List UInt8 :=
  if line.getLast? = some 13 then line.dropLast else line

/-- The lines of a file, up to the first one that encodes no text. -/
def lines (bytes : List UInt8) : List (List Char) :=
  let decode := fun line => (String.fromUTF8? ⟨(dropReturn line).toArray⟩).map String.toList
  (((bytes.splitOnP (· == 10)).map decode).takeWhile Option.isSome).filterMap id

/-- The first line may start with a byte order mark, which does not count. -/
def dropMark : List (List Char) → List (List Char)
  | [] => []
  | line :: rest => line.dropWhile (· == '\uFEFF') :: rest

def ofBytes (bytes : List UInt8) : List IgnoreRule := (dropMark (lines bytes)).filterMap ofLine?

def appliesTo (rule : IgnoreRule) (path : String) (isDirectory : Bool) : Bool :=
  (!rule.directoryOnly || isDirectory) && Glob.accepts rule.glob path

def verdict (rules : List IgnoreRule) (path : String) (isDirectory : Bool) : Option Verdict :=
  (rules.reverse.find? fun rule => rule.appliesTo path isDirectory).map fun rule =>
    if rule.negated then .keep else .ignore

end IgnoreRule

end DeclTree

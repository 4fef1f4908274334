import DeclTree.Text.Split

/-!
# Paths

A path is a text whose names are divided by slashes. The extension of a file name is what stands
behind its last dot, unless that dot is its first character; the stem is the rest.
-/

namespace DeclTree.Path

/-- The parts of a path between slashes, empty ones included. -/
def names (path : String) : List String := (Text.splitAt '/' path.toList).map String.ofList

def ofNames (names : List String) : String := "/".intercalate names

def isAbsolute (path : String) : Bool := path.toList.head? == some '/'

/-- A part that stands for the directory it is in. -/
def isHere (name : String) : Bool := name == "" || name == "."

/-- The last name of a path, if it is the name of an entry. -/
def fileName? (path : String) : Option String :=
  match ((names path).filter fun n => !isHere n).getLast? with
  | some ".." => none
  | last => last

/-- Stem and extension of a file name. -/
def splitExtension (name : String) : String × Option String :=
  match Text.splitLast '.' name.toList with
  | some (c :: cs, extension) => (String.ofList (c :: cs), some (String.ofList extension))
  | _ => (name, none)

def stem (name : String) : String := (splitExtension name).1

def extension? (name : String) : Option String := (splitExtension name).2

example : splitExtension "a.b.rs" = ("a.b", some "rs") := by decide

example : splitExtension ".rs" = (".rs", none) := by decide

example : splitExtension "a." = ("a", some "") := by decide

end DeclTree.Path

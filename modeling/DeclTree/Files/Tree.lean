import DeclTree.Error
import DeclTree.Files.Path
import DeclTree.ParseTree

/-!
# File trees

A directory with everything below it, as a value. What is put into a directory goes to its place in
the order of names, which is the order that `FileTree.Ordered` states. Symbolic links are followed
name by name; a path that needs more than `FileTree.linkLimit` of them is a loop, and what lies
outside the tree does not exist. Every directory can be listed, so a walk has nothing to fail at.
-/

namespace DeclTree

/-- The contents of a regular file, and the parse tree of its text if it is source code. -/
structure FileContent where
  bytes : ByteArray
  tree : Option ParseTree := none

def FileContent.text? (c : FileContent) : Option String := String.fromUTF8? c.bytes

inductive FileTree where
  | file (content : FileContent)
  | directory (entries : List (String × FileTree))
  | link (target : String)
  | socket

namespace FileTree

def empty : FileTree := .directory []

def entries : FileTree → List (String × FileTree)
  | .directory entries => entries
  | _ => []

/-- Changes the entry of a name, or makes one at its place in the order of names. -/
def putEntry (name : String) (change : Option FileTree → FileTree) :
    List (String × FileTree) → List (String × FileTree)
  | [] => [(name, change none)]
  | (n, t) :: rest =>
    if name = n then (n, change (some t)) :: rest
    else if name < n then (name, change none) :: (n, t) :: rest
    else (n, t) :: putEntry name change rest

/-- A new entry at the place of an old one; making a directory leaves one that is there. -/
def replace (new : FileTree) : Option FileTree → FileTree
  | some (.directory entries) =>
    match new with
    | .directory [] => .directory entries
    | new => new
  | _ => new

/-- Puts an entry below a directory, making the directories on the way. -/
def put (new : FileTree) : List String → FileTree → FileTree
  | [], old => replace new (some old)
  | [name], old => .directory (putEntry name (replace new) old.entries)
  | name :: names, old =>
    .directory (putEntry name (fun e => put new names (e.getD empty)) old.entries)

/-- The entry under a list of names, no links followed. -/
def get? : List String → FileTree → Option FileTree
  | [], t => some t
  | name :: names, t => (t.entries.lookup name).bind (get? names)

def linkLimit : Nat := 40

/-- Follows names from a directory, given by its own names, as far as the next link, which is left
to `onLink`. -/
def follow (whole : FileTree)
    (onLink : List String → List String → Except ReadFailure (List String)) :
    List String → List String → Except ReadFailure (List String)
  | place, [] => .ok place
  | place, name :: rest =>
    match whole.get? place with
    | none => .error .missing
    | some (.directory entries) =>
      if Path.isHere name then follow whole onLink place rest
      else if name = ".." then
        if place.isEmpty then .error .missing else follow whole onLink place.dropLast rest
      else
        match entries.lookup name with
        | none => .error .missing
        | some (.link target) =>
          if Path.isAbsolute target then .error .missing
          else onLink place (Path.names target ++ rest)
        | some _ => follow whole onLink (place ++ [name]) rest
    | some _ => .error .notDirectory

/-- Follows names through at most the given number of links. -/
def followLinks (whole : FileTree) : Nat → List String → List String →
    Except ReadFailure (List String)
  | 0 => follow whole fun _ _ => .error .linkLoop
  | n + 1 => follow whole (followLinks whole n)

/-- The names that a list of names leads to from a directory, and the entry there. -/
def locate (whole : FileTree) (place names : List String) :
    Except ReadFailure (List String × FileTree) := do
  let found ← followLinks whole linkLimit place names
  match whole.get? found with
  | some t => pure (found, t)
  | none => throw .missing

def resolve (whole : FileTree) (path : String) : Except ReadFailure (List String × FileTree) :=
  if path.isEmpty || Path.isAbsolute path then .error .missing
  else whole.locate [] (Path.names path)

def content (whole : FileTree) (place names : List String) : Except ReadFailure FileContent := do
  match ← whole.locate place names with
  | (_, .file content) => pure content
  | (_, .directory _) => throw .isDirectory
  | (_, .socket) => throw .noDevice
  | (_, .link _) => throw .missing

def readText (whole : FileTree) (path : String) : Except ReadFailure String := do
  let (place, _) ← whole.resolve path
  match (← whole.content [] place).text? with
  | some text => pure text
  | none => throw .invalidUtf8

end FileTree

end DeclTree

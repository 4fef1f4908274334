import DeclTree.Files.Walk
import DeclTree.Namespaces
import DeclTree.Source.Language

/-!
# The tree of source files

Every source file has its declarations in a namespace that its path names: one segment for each
directory, a leading `src` not counted, and one for the file itself, unless its name says that it
stands for its directory. The files of a directory are put into one tree in the order of the walk; a
file that cannot be read adds nothing.
-/

namespace DeclTree.Source

structure Options where
  /-- How many directories may lie between the start and a file. -/
  depth : Option Nat := none
  /-- The extensions to read; all that are known if there are none. -/
  extensions : List String := []

def directoryStems : List String := ["lib", "main", "mod", "index"]

/-- The namespace of a file, given by its names. -/
def segments (names : List String) : List String :=
  let directories := names.dropLast
  let outer := if directories.head? = some "src" then directories.tail else directories
  let own := (names.getLast?.map Path.stem).toList.filter fun s => !directoryStems.contains s
  outer ++ own

/-- The declarations of a file. The path is for messages, and the name has the extension. -/
def declarations (path name : String) (content : FileContent) : Except Error (List Declaration) :=
  match content.text?, Path.extension? name with
  | none, _ => .error (.unreadable path .invalidUtf8)
  | some _, none => .error (.noExtension path)
  | some _, some extension =>
    match Language.ofExtension? extension with
    | none => .error (.unsupportedExtension extension)
    | some language => .ok (content.tree.elim [] language.declarations)

/-- A file with a known extension that the options allow. -/
def isWanted (options : Options) (f : FoundFile) : Bool :=
  match f.extension? with
  | none => false
  | some extension =>
    (Language.ofExtension? extension).isSome &&
      (options.extensions.isEmpty || options.extensions.contains extension)

/-- The files below a directory that the options allow. A depth that cannot be counted one further
in 64 bits reaches nothing. -/
def files (whole : FileTree) (place : List String) (options : Options) : List FoundFile :=
  if options.depth = some 0xFFFFFFFFFFFFFFFF then []
  else (whole.walk place options.depth).filter (isWanted options)

/-- The declarations of a file that was met by a walk, if it can be read. -/
def found? (f : FoundFile) : Option (List Declaration) :=
  (declarations (Path.ofNames f.names) (f.names.getLast?.getD "") f.content).toOption

def addFile (root : Declaration) (f : FoundFile) : Declaration :=
  (found? f).elim root (root.insertAt (segments f.names))

/-- The tree of a list of files, before interfaces are inherited. -/
def tree (files : List FoundFile) : Declaration := files.foldl addFile (.global [])

end DeclTree.Source

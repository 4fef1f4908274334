import DeclTree.Files.IgnoreRules
import DeclTree.Files.Tree

/-!
# Walks over file trees

The regular files below a directory, in the order of names, a directory's files at the place of the
directory. Hidden entries are left out unless a rule keeps them. Rules come from three kinds of
files: `.ignore` in any directory around an entry, the nearest first; then `.gitignore`, and last
the exclusions of the repository, both only inside a repository and only up to its top. The
directories above the one the walk starts at count too. Links to directories are not followed.
-/

namespace DeclTree

/-- The rules that one directory adds to what is below it. -/
structure IgnoreLevel where
  /-- How many names its path has. -/
  depth : Nat
  general : List IgnoreRule
  repository : List IgnoreRule
  exclusions : List IgnoreRule
  /-- The directory is the top of a repository. -/
  isTop : Bool

namespace IgnoreLevel

def rulesAt (whole : FileTree) (place names : List String) : List IgnoreRule :=
  match whole.content place names with
  | .ok content => IgnoreRule.ofBytes content.bytes.toList
  | .error _ => []

def hasEntry (whole : FileTree) (place : List String) (name : String) : Bool :=
  (whole.locate place [name]).isOk

def ofDirectory (whole : FileTree) (place : List String) : IgnoreLevel where
  depth := place.length
  general := rulesAt whole place [".ignore"]
  repository := rulesAt whole place [".gitignore"]
  exclusions := rulesAt whole place [".git", "info", "exclude"]
  isTop := [".git", ".jj"].any (hasEntry whole place)

/-- The levels of a directory and of all those above it, the nearest first. -/
def around (whole : FileTree) (place : List String) : List IgnoreLevel :=
  ((List.range (place.length + 1)).reverse.map fun n => place.take n).map (ofDirectory whole)

/-- The levels up to the top of the repository; none outside of repositories. -/
def withinRepository (levels : List IgnoreLevel) : List IgnoreLevel :=
  match levels.dropWhile fun level => !level.isTop with
  | [] => []
  | top :: _ => (levels.takeWhile fun level => !level.isTop) ++ [top]

/-- What rules of one kind say of an entry at a place: the nearest level that says anything
decides. -/
def verdictBy (rules : IgnoreLevel → List IgnoreRule) (levels : List IgnoreLevel)
    (place : List String) (isDirectory : Bool) : Option Verdict :=
  levels.findSome? fun level =>
    IgnoreRule.verdict (rules level) (Path.ofNames (place.drop level.depth)) isDirectory

def verdict (levels : List IgnoreLevel) (place : List String) (isDirectory : Bool) :
    Option Verdict :=
  let inside := withinRepository levels
  (verdictBy general levels place isDirectory).or
    ((verdictBy repository inside place isDirectory).or
      (verdictBy exclusions inside place isDirectory))

def isHidden (name : String) : Bool := name.toList.head? == some '.'

def leavesOut (levels : List IgnoreLevel) (place : List String) (name : String)
    (isDirectory : Bool) : Bool :=
  match verdict levels (place ++ [name]) isDirectory with
  | some .ignore => true
  | some .keep => false
  | none => isHidden name

end IgnoreLevel

/-- A file met by a walk, with its names below the start of the walk. -/
structure FoundFile where
  names : List String
  content : FileContent

namespace FoundFile

/-- The number of directories between the start of the walk and the file. -/
def depth (f : FoundFile) : Nat := f.names.length - 1

def extension? (f : FoundFile) : Option String := f.names.getLast?.bind Path.extension?

end FoundFile

namespace FileTree

/-- How far a walk may still go down: a number of directories, or any. -/
abbrev Reach := Option Nat

/-- The reach below a directory that the walk meets, if it may enter it. -/
def below? : Reach → Option Reach
  | none => some none
  | some 0 => none
  | some (n + 1) => some (some n)

mutual

/-- The files at an entry of the directory at a place. -/
def filesAt (whole : FileTree) (levels : List IgnoreLevel) (place : List String) (reach : Reach)
    (name : String) : FileTree → List FoundFile
  | .directory entries =>
    if IgnoreLevel.leavesOut levels place name true then []
    else
      match below? reach with
      | none => []
      | some reach =>
        let inside := place ++ [name]
        (filesIn whole (IgnoreLevel.ofDirectory whole inside :: levels) inside reach entries).map
          fun f => { f with names := name :: f.names }
  | .file content =>
    if IgnoreLevel.leavesOut levels place name false then [] else [⟨[name], content⟩]
  | .link _ =>
    if IgnoreLevel.leavesOut levels place name false then []
    else
      match whole.locate place [name] with
      | .ok (_, .file content) => [⟨[name], content⟩]
      | _ => []
  | .socket => []

/-- The files at entries of the directory at a place. -/
def filesIn (whole : FileTree) (levels : List IgnoreLevel) (place : List String) (reach : Reach) :
    List (String × FileTree) → List FoundFile
  | [] => []
  | (name, t) :: rest =>
    filesAt whole levels place reach name t ++ filesIn whole levels place reach rest

end

/-- All files below the directory at a place, down to a number of directories below it. -/
def walk (whole : FileTree) (place : List String) (reach : Reach) : List FoundFile :=
  match whole.get? place with
  | some (.directory entries) =>
    filesIn whole (IgnoreLevel.around whole place) place reach entries
  | _ => []

end FileTree

end DeclTree

import DeclTree.Declaration.Codec
import DeclTree.Inheritance
import DeclTree.Report
import DeclTree.Source.Tree

/-!
# Loading trees

A path leads to a serialized tree, a source file or a directory of source files. Whatever it is, the
tree has its inherited interfaces.
-/

namespace DeclTree.Load

/-- The tree that a JSON text is the form of, with inherited interfaces. -/
def ofText (text : String) : Except Error Declaration :=
  (Declaration.ofText text).map Declaration.close

def json (whole : FileTree) (path : String) : Except Error Declaration :=
  match whole.readText path with
  | .error failure => .error (.unreadable path failure)
  | .ok text => ofText text

/-- A lone hyphen as a directory to walk stands for no directory at all. -/
def isHyphen (path : String) : Bool :=
  match Path.names path with
  | "-" :: rest => rest.all Path.isHere
  | _ => false

/-- The tree of a source file, or of all source files in a directory. -/
def source (whole : FileTree) (path : String) (options : Source.Options) :
    Except Error Declaration :=
  match whole.resolve path with
  | .error _ => .error (.pathNotFound path)
  | .ok (_, .file content) => do
    let name := (Path.fileName? path).getD ""
    let ds ← Source.declarations path name content
    pure ((Declaration.global []).insertAt (Source.segments [name]) ds).close
  | .ok (place, .directory _) =>
    let files := if isHyphen path then [] else Source.files whole place options
    .ok (Source.tree files).close
  | .ok _ => .error (.invalidPath path)

/-- The tree at a path: serialized if it is a file with the extension for that, and of source files
otherwise. -/
def auto (whole : FileTree) (path : String) (options : Source.Options) :
    Except Error Declaration :=
  match whole.resolve path with
  | .error _ => .error (.pathNotFound path)
  | .ok (_, .file _) =>
    if (Path.fileName? path).bind Path.extension? = some "json" then json whole path
    else source whole path options
  | .ok _ => source whole path options

def process (whole : FileTree) (path : String) (q : Query) (options : Source.Options)
    (format : Report.Format) : Except Error String := do
  pure (report format (q.run (← auto whole path options)))

end DeclTree.Load

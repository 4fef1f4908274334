import DeclTree.Files.Order
import DeclTree.Json.Value

/-!
# Snapshots of directories

A directory written down as JSON: an array of entries, each with its path and with the text of a
file, its bytes, the target of a link, or the mark of a directory or socket. A source file also has
its parse tree as a flat list. Directories on the way to an entry need not be listed.
-/

namespace DeclTree.Snapshot

/-- A node of a parse tree: depth, kind, whether it is named, field, first byte, byte behind it. -/
def entry? : Json → Option ParseTree.Entry
  | .array [depth, kind, named, field, start, stop] => do
    pure ⟨← depth.nat?, ← kind.text?, (← named.nat?) ≠ 0, ← field.text?, ← start.nat?, ← stop.nat?⟩
  | _ => none

def parseTree? (text : String) : Json → Option ParseTree
  | .array items => do ParseTree.ofEntries? text (← items.mapM entry?)
  | _ => none

def byte? (json : Json) : Option UInt8 := json.nat?.map Nat.toUInt8

/-- What an entry puts at its path. -/
def fileTree? (json : Json) : Option OrderedTree :=
  match json.get? "text", json.get? "bytes", json.get? "symlink", json.get? "dir",
      json.get? "socket" with
  | some text, _, _, _, _ => do
    let text ← text.text?
    pure ⟨_, .file ⟨text.toUTF8, (json.get? "cst").bind (parseTree? text)⟩⟩
  | _, some (.array bytes), _, _, _ => do
    pure ⟨_, .file { bytes := ⟨(← bytes.mapM byte?).toArray⟩ }⟩
  | _, _, some target, _, _ => target.text?.map fun target => ⟨_, .link target⟩
  | _, _, _, some _, _ => some .empty
  | _, _, _, _, some _ => some ⟨_, .socket⟩
  | _, _, _, _, _ => none

def addEntry? (whole : OrderedTree) (json : Json) : Option OrderedTree := do
  let path ← (← json.get? "path").text?
  let new ← fileTree? json
  pure (.put new ((Path.names path).filter fun n => !Path.isHere n) whole)

/-- The directory that a list of entries describes. -/
def directory? : Json → Option OrderedTree
  | .array entries => entries.foldlM addEntry? .empty
  | _ => none

def ofJson? (json : Json) : Option FileTree := (directory? json).map OrderedTree.tree

end DeclTree.Snapshot

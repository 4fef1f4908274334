import DeclTree.TypeName.Parser

/-!
# Parse trees

The trees of a parser that keeps every token: each node has a kind, may be named or a mere token,
may be the one that its parent knows under a field name, and carries the text it covers.

A parser hands a tree over as a flat list in pre-order, every node with its depth and its place in
the text in bytes. `ParseTree.ofEntries?` builds the tree from the last entry to the first: an
entry takes the trees behind it that lie deeper as its children.
-/

namespace DeclTree

/-- What a node of a parse tree says of itself. -/
structure ParseTree.Label where
  kind : String
  named : Bool
  /-- The name under which its parent knows the node, or empty. -/
  field : String
  text : String
deriving DecidableEq, Repr, Inhabited

inductive ParseTree where
  | node (label : ParseTree.Label) (children : List ParseTree)
deriving Inhabited

namespace ParseTree

def label : ParseTree → Label
  | .node label _ => label

def children : ParseTree → List ParseTree
  | .node _ children => children

def kind (t : ParseTree) : String := t.label.kind

def named (t : ParseTree) : Bool := t.label.named

def field (t : ParseTree) : String := t.label.field

def text (t : ParseTree) : String := t.label.text

def namedChildren (t : ParseTree) : List ParseTree := t.children.filter named

/-- The first child that is no mere token. -/
def firstNamed? (t : ParseTree) : Option ParseTree := t.children.find? named

/-- The child known under a field name. -/
def child? (t : ParseTree) (field : String) : Option ParseTree :=
  t.children.find? fun c => c.field == field

/-- The text of the child known under a field name. -/
def childText? (t : ParseTree) (field : String) : Option String := (t.child? field).map text

def childOfKind? (t : ParseTree) (kind : String) : Option ParseTree :=
  t.children.find? fun c => c.kind == kind

/-- The type a node names, if its text is one. -/
def typeName? (t : ParseTree) : Option TypeName := TypeName.parse? t.text.toList

@[simp] theorem label_node (l : Label) (cs : List ParseTree) : (node l cs).label = l := rfl

@[simp] theorem children_node (l : Label) (cs : List ParseTree) : (node l cs).children = cs := rfl

structure Entry where
  depth : Nat
  kind : String
  named : Bool
  field : String
  /-- The first byte of the node in the text. -/
  start : Nat
  /-- The byte behind the node. -/
  stop : Nat
deriving DecidableEq, Repr

/-- The part of an encoded text between two bytes. -/
def slice (bytes : ByteArray) (start stop : Nat) : String :=
  (String.fromUTF8? (bytes.extract start stop)).getD ""

/-- Puts an entry in front of the trees behind it, as the parent of those that lie deeper. -/
def grow (bytes : ByteArray) (e : Entry) (behind : List (Nat × ParseTree)) :
    List (Nat × ParseTree) :=
  let label : Label := ⟨e.kind, e.named, e.field, slice bytes e.start e.stop⟩
  (e.depth, .node label ((behind.takeWhile fun t => e.depth < t.1).map Prod.snd)) ::
    behind.dropWhile fun t => e.depth < t.1

/-- The tree of a flat list over a text. -/
def ofEntries? (text : String) (entries : List Entry) : Option ParseTree :=
  ((entries.foldr (grow text.toUTF8) []).head?).map Prod.snd

end ParseTree

end DeclTree

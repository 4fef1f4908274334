import DeclTree.Source.RustItems
import DeclTree.Source.TypeScriptStatements

/-!
# Source languages

The languages whose files are read, told apart by the extension of the file name.
-/

namespace DeclTree

inductive Language where
  | rust
  | typeScript
deriving DecidableEq, Repr

namespace Language

def ofExtension? : String → Option Language
  | "rs" => some .rust
  | "ts" => some .typeScript
  | "tsx" => some .typeScript
  | _ => none

/-- The declarations of a file. -/
def declarations : Language → ParseTree → List Declaration
  | .rust, file => Rust.declarations file
  | .typeScript, file => TypeScript.declarations file

end Language

end DeclTree

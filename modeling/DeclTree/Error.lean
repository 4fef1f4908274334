/-!
# What can go wrong

One type of causes for the whole library, and their wording in one place. A filter value that is
refused carries the aspect it was meant for and its text as the caller wrote it.
-/

namespace DeclTree

/-- What a refused filter value was meant to name. -/
inductive FilterAspect where
  | kind
  | visibility
  | genericConstraint
  | type
  | pattern
deriving DecidableEq, Repr

def FilterAspect.label : FilterAspect → String
  | .kind => "kind"
  | .visibility => "visibility"
  | .genericConstraint => "generic constraint"
  | .type => "type"
  | .pattern => "pattern"

/-- Why the contents of a path could not be read as text. -/
inductive ReadFailure where
  | invalidUtf8
  | missing
  | isDirectory
  | notDirectory
  | linkLoop
  | noDevice
deriving DecidableEq, Repr

/-- The system's wording of a read failure. -/
def ReadFailure.message : ReadFailure → String
  | .invalidUtf8 => "stream did not contain valid UTF-8"
  | .missing => "No such file or directory (os error 2)"
  | .isDirectory => "Is a directory (os error 21)"
  | .notDirectory => "Not a directory (os error 20)"
  | .linkLoop => "Too many levels of symbolic links (os error 40)"
  | .noDevice => "No such device or address (os error 6)"

/-- The causes for which building, loading or running a query fails. -/
inductive Error where
  /-- The text names nothing of the aspect it was given for. -/
  | invalidFilterValue (aspect : FilterAspect) (value : String)
  | pathNotFound (path : String)
  /-- The path exists and is neither a regular file nor a directory. -/
  | invalidPath (path : String)
  | unsupportedExtension (extension : String)
  | noExtension (path : String)
  | unreadable (path : String) (failure : ReadFailure)
  /-- The text is no JSON form of what was expected. -/
  | malformedJson
deriving DecidableEq, Repr

def Error.message : Error → String
  | .invalidFilterValue aspect value => "Invalid " ++ aspect.label ++ " filter value: " ++ value
  | .pathNotFound path => "Path not found: " ++ path
  | .invalidPath path => "Invalid path: " ++ path
  | .unsupportedExtension extension => "Unsupported file extension: " ++ extension
  | .noExtension path => "No file extension found for path: " ++ path
  | .unreadable path failure => "Failed to read " ++ path ++ ": " ++ failure.message
  | .malformedJson => "Serialization error"

end DeclTree

/-!
# Type names

A reference to a type, possibly generic, and its canonical text `Qualifier.Name<Arg, Arg>`. Two
references name the same type when their canonical texts agree, however the path was split into
qualifier and name; structural equality is the finer relation.
-/

namespace DeclTree

structure TypeName where
  /-- Dotted path in front of the name, empty for the global namespace. -/
  qualifier : String
  name : String
  args : List TypeName := []
deriving Inhabited

namespace TypeName

mutual

/-- `Qualifier.Name<Arg, Arg>`, without the dot when there is no qualifier and without the brackets
when there are no arguments. -/
def canonical : TypeName → String
  | ⟨qualifier, name, args⟩ =>
    (if qualifier.isEmpty then "" else qualifier ++ ".") ++ name ++
      (if args.isEmpty then "" else "<" ++ canonicalArgs args ++ ">")

/-- The canonical texts of arguments, separated by a comma and a space. -/
def canonicalArgs : List TypeName → String
  | [] => ""
  | [arg] => canonical arg
  | arg :: next :: args => canonical arg ++ ", " ++ canonicalArgs (next :: args)

end

def arity (t : TypeName) : Nat := t.args.length

/-- The type without its arguments, which is how generic types are declared. -/
def openName (t : TypeName) : String := canonical ⟨t.qualifier, t.name, []⟩

/-- Both references name the same type. -/
def Same (a b : TypeName) : Prop := a.canonical = b.canonical

instance (a b : TypeName) : Decidable (Same a b) :=
  inferInstanceAs (Decidable (a.canonical = b.canonical))

/-- A tuple is the generic type `Tuple`. -/
def tuple (args : List TypeName) : TypeName := ⟨"", "Tuple", args⟩

def canonicals (types : List TypeName) : List String := types.map canonical

/-- Whether a list of types has one of this canonical name. -/
def listed (types : List TypeName) (name : String) : Bool := types.any fun t => t.canonical == name

theorem Same.refl (a : TypeName) : Same a a := rfl

@[simp] theorem canonicals_nil : canonicals [] = [] := rfl

@[simp] theorem canonicals_cons (t : TypeName) (ts : List TypeName) :
    canonicals (t :: ts) = t.canonical :: canonicals ts := rfl

@[simp] theorem canonicals_append (ts us : List TypeName) :
    canonicals (ts ++ us) = canonicals ts ++ canonicals us := List.map_append

@[simp] theorem length_canonicals (ts : List TypeName) : (canonicals ts).length = ts.length :=
  List.length_map canonical

theorem canonical_mem {t : TypeName} {ts : List TypeName} (h : t ∈ ts) :
    t.canonical ∈ canonicals ts := List.mem_map_of_mem h

theorem listed_iff {types : List TypeName} {name : String} :
    listed types name = true ↔ name ∈ canonicals types := by
  simp [listed, canonicals]

end TypeName

end DeclTree

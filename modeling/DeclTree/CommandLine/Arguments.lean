import DeclTree.Declaration.Kind
import DeclTree.Text.Split

/-!
# Command-line arguments

A command line is one path, switches and settings, in any order. A setting takes its value behind
an equals sign or from the next argument, which must not look like a switch or setting itself; two
switches have a letter, and letters can be written together. Behind a lone `--` everything is a
path. Switches, and settings that hold one value, are given at most once, and of the settings that
filter the same aspect at most one is given.
-/

namespace DeclTree.CommandLine

/-- An argument that says something by being there. -/
inductive Switch where
  | ignoreCase
  | annotated
  | generic
  | json
  | sequential
  | verbose
deriving DecidableEq, Repr

/-- An argument with a value. -/
inductive Setting where
  | kind
  | name
  | nameLike
  | nameMatches
  | scope
  | scopeLike
  | visibility
  | implements
  | annotatedWith
  | constraint
  | depth
  | extension
deriving DecidableEq, Repr

def Switch.all : List Switch := [.ignoreCase, .annotated, .generic, .json, .sequential, .verbose]

def Switch.word : Switch → String
  | .ignoreCase => "ignore-case"
  | .annotated => "annotated"
  | .generic => "generic"
  | .json => "json"
  | .sequential => "sequential"
  | .verbose => "verbose"

def Switch.ofLetter? : Char → Option Switch
  | 'i' => some .ignoreCase
  | 'v' => some .verbose
  | _ => none

namespace Setting

def all : List Setting :=
  [.kind, .name, .nameLike, .nameMatches, .scope, .scopeLike, .visibility, .implements,
    .annotatedWith, .constraint, .depth, .extension]

def word : Setting → String
  | .kind => "kind"
  | .name => "name"
  | .nameLike => "name-like"
  | .nameMatches => "name-matches"
  | .scope => "namespace"
  | .scopeLike => "namespace-like"
  | .visibility => "visibility"
  | .implements => "implements"
  | .annotatedWith => "annotated-with"
  | .constraint => "constraint"
  | .depth => "depth"
  | .extension => "ext"

/-- The settings that may be given several times. -/
def isRepeatable : Setting → Bool
  | .kind | .visibility | .implements | .annotatedWith | .constraint | .extension => true
  | _ => false

/-- Sets of settings of which one command line gives at most one. -/
def exclusive : List (List Setting) :=
  [[.name, .nameLike, .nameMatches], [.scope, .scopeLike]]

end Setting

inductive Piece where
  | path (path : String)
  | switch (switch : Switch)
  | setting (setting : Setting) (value : String)
deriving DecidableEq, Repr

inductive Form where
  | path
  | switches (switches : List Switch)
  /-- A setting that takes its value from the next argument. -/
  | awaiting (setting : Setting)
  | setting (setting : Setting) (value : String)
  | unknown

/-- Whether an argument looks like a switch or setting: a lone hyphen does not. -/
def hasHyphen : List Char → Bool
  | '-' :: _ :: _ => true
  | _ => false

/-- The form of an argument with a long name, which ends at the first equals sign. -/
def longForm (cs : List Char) : Form :=
  let (name, rest) := cs.span (· ≠ '=')
  let word := String.ofList name
  let switch := Switch.all.find? fun s => s.word = word
  let setting := Setting.all.find? fun s => s.word = word
  match switch, setting, rest with
  | some s, _, [] => .switches [s]
  | none, some s, [] => .awaiting s
  | none, some s, _ :: value => .setting s (String.ofList value)
  | _, _, _ => .unknown

def form (argument : String) : Form :=
  match argument.toList with
  | '-' :: '-' :: cs => longForm cs
  | '-' :: c :: cs => ((c :: cs).mapM Switch.ofLetter?).elim .unknown .switches
  | _ => .path

/-- The pieces of a list of arguments, if each of them is one. -/
def pieces? : List String → Option (List Piece)
  | [] => some []
  | argument :: rest =>
    if argument = "--" then some (rest.map .path)
    else
      match form argument with
      | .path => (pieces? rest).map (.path argument :: ·)
      | .switches switches => (pieces? rest).map (switches.map .switch ++ ·)
      | .setting s value => (pieces? rest).map (.setting s value :: ·)
      | .awaiting s =>
        match rest with
        | value :: rest =>
          if hasHyphen value.toList then none else (pieces? rest).map (.setting s value :: ·)
        | [] => none
      | .unknown => none

def paths (pieces : List Piece) : List String :=
  pieces.filterMap fun
    | .path path => some path
    | _ => none

def values (pieces : List Piece) (s : Setting) : List String :=
  pieces.filterMap fun
    | .setting t value => if t = s then some value else none
    | _ => none

def occurrences (pieces : List Piece) (s : Switch) : Nat := pieces.count (.switch s)

def isConsistent (pieces : List Piece) : Bool :=
  (Switch.all.all fun s => occurrences pieces s ≤ 1) &&
    (Setting.all.all fun s => s.isRepeatable || (values pieces s).length ≤ 1) &&
    Setting.exclusive.all fun group =>
      (group.filter fun s => !(values pieces s).isEmpty).length ≤ 1

/-- A natural number in decimal digits that fits into 64 bits; a plus sign may stand in front. -/
def count? (text : String) : Option Nat :=
  let digits := match text.toList with
    | '+' :: cs => cs
    | cs => cs
  if !digits.isEmpty && digits.all Char.isDigit then
    let n := digits.foldl (fun n c => 10 * n + (c.toNat - '0'.toNat)) 0
    if n < 0x10000000000000000 then some n else none
  else none

/-- A command line with every value in its place. -/
structure Arguments where
  path : String
  kinds : List Kind := []
  name : Option String := none
  nameLike : Option String := none
  nameMatches : Option String := none
  ignoreCase : Bool := false
  scope : Option String := none
  scopeLike : Option String := none
  visibilities : List String := []
  implements : List String := []
  annotated : Bool := false
  annotatedWith : List String := []
  generic : Bool := false
  constraints : List String := []
  depth : Option Nat := none
  extensions : List String := []
  json : Bool := false
  sequential : Bool := false
  verbose : Bool := false

/-- The command line made of pieces that fit together. -/
def ofPieces? (pieces : List Piece) : Option Arguments := do
  if !isConsistent pieces then none
  let [path] := paths pieces | none
  let kinds ← (values pieces .kind).mapM fun name => (Kind.ofName name).toOption
  let depth ← (values pieces .depth).head?.elim (some none) fun text => (count? text).map some
  let has := fun s => occurrences pieces s ≠ 0
  pure
    { path, kinds, depth,
      name := (values pieces .name).head?,
      nameLike := (values pieces .nameLike).head?,
      nameMatches := (values pieces .nameMatches).head?,
      scope := (values pieces .scope).head?,
      scopeLike := (values pieces .scopeLike).head?,
      visibilities := values pieces .visibility,
      implements := values pieces .implements,
      annotatedWith := values pieces .annotatedWith,
      constraints := values pieces .constraint,
      extensions := values pieces .extension,
      ignoreCase := has .ignoreCase,
      annotated := has .annotated,
      generic := has .generic,
      json := has .json,
      sequential := has .sequential,
      verbose := has .verbose }

def parse? (arguments : List String) : Option Arguments := do ofPieces? (← pieces? arguments)

end DeclTree.CommandLine

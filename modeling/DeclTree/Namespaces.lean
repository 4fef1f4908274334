import DeclTree.Declaration
import DeclTree.FirstMatch

/-!
# Merging namespaces

Declarations that come from several places are put into one tree. A namespace that meets another of
its name among its new siblings hands its children over to it, one by one and by the same rule; any
other declaration goes behind its new siblings as it is.
-/

namespace DeclTree

namespace Declaration

def isSpace (name : String) (d : Declaration) : Bool := d.kind == .namespace && d.name == name

mutual

/-- The siblings with one more declaration among them. -/
def mergeInto (siblings : List Declaration) : Declaration → List Declaration
  | .node header children =>
    if header.kind = .namespace then
      (changeFirst? (isSpace header.name)
        (fun existing => .node existing.header (mergeAll existing.children children))
        siblings).getD (siblings ++ [.node header children])
    else siblings ++ [.node header children]

/-- The siblings with more declarations among them, taken in order. -/
def mergeAll (siblings : List Declaration) : List Declaration → List Declaration
  | [] => siblings
  | d :: ds => mergeAll (mergeInto siblings d) ds

end

/-- Declarations inside nested namespaces, the outermost first. -/
def nested : List String → List Declaration → List Declaration
  | [], ds => ds
  | segment :: segments, ds => [space segment (nested segments ds)]

/-- The tree with declarations added below a path of namespaces. -/
def insertAt (root : Declaration) (segments : List String) (ds : List Declaration) : Declaration :=
  .node root.header (mergeAll root.children (nested segments ds))

@[simp] theorem mergeAll_nil (siblings : List Declaration) : mergeAll siblings [] = siblings := by
  simp [mergeAll]

@[simp] theorem mergeAll_cons (siblings : List Declaration) (d : Declaration)
    (ds : List Declaration) :
    mergeAll siblings (d :: ds) = mergeAll (mergeInto siblings d) ds := by
  simp [mergeAll]

/-- A declaration that is no namespace goes behind its siblings. -/
theorem mergeInto_of_kind_ne {siblings : List Declaration} {d : Declaration}
    (h : d.kind ≠ .namespace) : mergeInto siblings d = siblings ++ [d] := by
  cases d
  simp_all [mergeInto]

end Declaration

end DeclTree

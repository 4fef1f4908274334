import DeclTree.Inheritance
import DeclTree.Proofs.Outcomes
import DeclTree.Proofs.Source.Layers
import DeclTree.Source.Tree

/-!
# Namespaces of source files

The files of a tree are merged one after the other, each inside the namespaces of its path. So the
tree has a namespace twice exactly when the first block of some path, in the order of the files, has
two namespaces of one name side by side. Blocks that come later are merged, whatever they repeat.
-/

namespace DeclTree.Source

open Declaration

/-- The declarations of files in the namespaces of their paths, one file behind the other. -/
def forest (files : List FoundFile) : List Declaration :=
  files.flatMap fun f => (found? f).elim [] (nested (segments f.names))

/-- The first block of every path of namespaces in the files has distinct namespaces in it. -/
def FirstBlocksDistinct (files : List FoundFile) : Prop :=
  ∀ path block, path ≠ [] → firstBlock path (forest files) = some block → Distinct block

theorem mergeAll_append (siblings ds es : List Declaration) :
    mergeAll siblings (ds ++ es) = mergeAll (mergeAll siblings ds) es := by
  induction ds generalizing siblings with
  | nil => simp
  | cons d ds ih => simp [ih]

theorem addFile_eq (root : Declaration) (f : FoundFile) :
    addFile root f = .node root.header
      (mergeAll root.children ((found? f).elim [] (nested (segments f.names)))) := by
  obtain ⟨header, children⟩ := root
  unfold addFile
  cases found? f with
  | none => simp
  | some ds => rfl

theorem foldl_addFile (files : List FoundFile) (root : Declaration) :
    files.foldl addFile root =
      .node root.header (mergeAll root.children (forest files)) := by
  induction files generalizing root with
  | nil =>
    obtain ⟨header, children⟩ := root
    simp [forest]
  | cons f files ih =>
    rw [List.foldl_cons, ih, addFile_eq, header_node, children_node, ← mergeAll_append]
    rfl

theorem tree_eq (files : List FoundFile) : tree files = .global (mergeAll [] (forest files)) :=
  foldl_addFile files (.global [])

/-- Files are as general as paths of namespaces with parse trees: each such pair comes from one. -/
theorem exists_found? (path : List String) (language : Language) (file : ParseTree) :
    ∃ f : FoundFile, segments f.names = path ∧ found? f = some (language.declarations file) := by
  have hfile : ∀ name extension, Path.stem name = "mod" → Path.extension? name = some extension →
      Language.ofExtension? extension = some language →
      ∃ f : FoundFile, segments f.names = path ∧
        found? f = some (language.declarations file) := by
    intro name extension hstem hextension hlanguage
    have htext : FileContent.text? ⟨"".toUTF8, some file⟩ = some "" := fromUTF8?_toUTF8 ""
    refine ⟨⟨("src" :: path) ++ [name], ⟨"".toUTF8, some file⟩⟩, ?_, ?_⟩
    · simp only [segments, List.dropLast_concat, List.getLast?_concat]
      simp [hstem, directoryStems]
    · simp only [found?, declarations, List.getLast?_concat, Option.getD_some, htext, hextension,
        hlanguage]
      rfl
  cases language with
  | rust => exact hfile "mod.rs" "rs" (by decide) (by decide) rfl
  | typeScript => exact hfile "mod.ts" "ts" (by decide) (by decide) rfl

theorem layered_found? {f : FoundFile} {ds : List Declaration} (h : found? f = some ds) :
    ∀ d ∈ ds, Layered d := by
  unfold found? declarations at h
  split at h
  · cases h
  · cases h
  · split at h
    · cases h
    · rename_i language hlanguage
      cases htree : f.content.tree with
      | none =>
        rw [htree] at h
        cases h
        simp
      | some file =>
        rw [htree] at h
        cases h
        exact language.layered_declarations file

theorem layered_forest (files : List FoundFile) : ∀ d ∈ forest files, Layered d := by
  intro d hd
  obtain ⟨f, -, hd⟩ := List.mem_flatMap.mp hd
  cases hfound : found? f with
  | none => simp [hfound] at hd
  | some ds =>
    rw [hfound, Option.elim_some] at hd
    exact layered_nested (layered_found? hfound) (segments f.names) d hd

theorem unrepeated_tree_iff (files : List FoundFile) :
    Unrepeated (tree files).children ↔ FirstBlocksDistinct files := by
  have hnil : Unrepeated [] := .intro .nil (by simp)
  rw [tree_eq, global, space, children_node, unrepeated_mergeAll, and_iff_right hnil]
  constructor
  · intro h path block hpath
    exact h path block (firstBlock_eq_none_of_nil hpath)
  · intro h path block hnone
    refine h path block ?_
    rintro rfl
    cases hnone

/-- A tree of files has no namespace twice among the children of any declaration, and as a loaded
tree has one place at most for every path of namespaces, exactly when no first block of a path
repeats a namespace. -/
theorem tree_merged_iff (files : List FoundFile) :
    ((tree files).NoRepeats ↔ FirstBlocksDistinct files) ∧
      ((tree files).close.OnePlace ↔ FirstBlocksDistinct files) := by
  have hlayered : Layered (tree files) := by
    rw [tree_eq]
    exact .space rfl (layered_mergeAll [] (forest files) (by simp) (layered_forest files))
  constructor
  · rw [hlayered.noRepeats_iff, unrepeated_tree_iff]
  · rw [onePlace_close, onePlace_iff, unrepeated_tree_iff]

/-! ## A file with two blocks -/

def token (kind : String) (named : Bool) (field text : String) : ParseTree :=
  .node ⟨kind, named, field, text⟩ []

def classText (name : String) : String := "class " ++ name ++ " \x7b\x7d"

def blockText (name : String) : String := "\x7b\n" ++ classText name ++ "\n\x7d"

/-- A class without members. -/
def classStatement (name : String) : ParseTree :=
  .node ⟨"class_declaration", true, "", classText name⟩ [
    token "class" false "" "class",
    token "type_identifier" true "name" name,
    .node ⟨"class_body", true, "body", "\x7b\x7d"⟩ [
      token "\x7b" false "" "\x7b", token "\x7d" false "" "\x7d"]]

/-- A block of the namespace `Shapes` with one class in it. -/
def shapesBlock (name : String) : ParseTree :=
  .node ⟨"expression_statement", true, "", "namespace Shapes " ++ blockText name⟩ [
    .node ⟨"internal_module", true, "", "namespace Shapes " ++ blockText name⟩ [
      token "namespace" false "" "namespace",
      token "identifier" true "name" "Shapes",
      .node ⟨"statement_block", true, "body", blockText name⟩ [
        token "\x7b" false "" "\x7b", classStatement name, token "\x7d" false "" "\x7d"]]]

def twoBlocksText : String :=
  "namespace Shapes " ++ blockText "Circle" ++ "\nnamespace Shapes " ++ blockText "Square"

/-- A file with two blocks of one namespace. -/
def twoBlocks : FoundFile where
  names := ["app.ts"]
  content :=
    { bytes := twoBlocksText.toUTF8
      tree := some (.node ⟨"program", true, "", twoBlocksText⟩
        [shapesBlock "Circle", shapesBlock "Square"]) }

/-- The namespace of a block, with its class in it. -/
def shapes (name : String) : Declaration :=
  .space "Shapes" [(ofKind .class name).withVisibility .internal]

theorem statement_classStatement (name : String) :
    TypeScript.statement false [] (classStatement name) =
      [(ofKind .class name).withVisibility .internal] := by
  simp [classStatement, token, TypeScript.statement, TypeScript.isSpaceKind,
    TypeScript.plainStatement?, TypeScript.class?, ParseTree.kind, ParseTree.childText?,
    ParseTree.child?, ParseTree.childOfKind?, ParseTree.field, ParseTree.text,
    ParseTree.namedChildren, ParseTree.named, TypeScript.decorators, TypeScript.typeParameters,
    TypeScript.membersFrom, TypeScript.pairAccessors, TypeScript.shownIf, ofKind, withVisibility,
    mapHeader]

theorem statement_shapesBlock (name : String) :
    TypeScript.statement false [] (shapesBlock name) = [shapes name] := by
  have hnamed : (classStatement name).label.named = true := rfl
  have hsegments : TypeScript.spaceSegments "Shapes" = ["Shapes"] := by cbv
  simp [shapesBlock, token, TypeScript.statement, TypeScript.spaceStatement,
    TypeScript.isSpaceKind, TypeScript.bodyStatements, TypeScript.statements, ParseTree.named,
    ParseTree.kind, ParseTree.childText?, ParseTree.child?, ParseTree.field, ParseTree.text,
    hsegments, hnamed, statement_classStatement, nested, shapes]

theorem found?_twoBlocks : found? twoBlocks = some [shapes "Circle", shapes "Square"] := by
  have htext : twoBlocks.content.text? = some twoBlocksText := fromUTF8?_toUTF8 twoBlocksText
  have hextension : Path.extension? "app.ts" = some "ts" := by decide
  have hnamed : ∀ name, (shapesBlock name).named = true := fun _ => rfl
  rw [found?, declarations, htext]
  simp [twoBlocks, hextension, Language.ofExtension?, Language.declarations,
    TypeScript.declarations, TypeScript.statements, hnamed, statement_shapesBlock, Except.toOption]

theorem tree_twoBlocks :
    tree [twoBlocks] = .global [.space "app" [shapes "Circle", shapes "Square"]] := by
  have hsegments : segments twoBlocks.names = ["app"] := by decide
  rw [tree_eq, forest, List.flatMap_singleton, found?_twoBlocks, Option.elim_some, hsegments]
  simp [nested, mergeInto, space, changeFirst?]

/-- The second block stays beside the first, in the tree of the file and when it is loaded. -/
theorem not_merged_twoBlocks :
    ¬ (tree [twoBlocks]).NoRepeats ∧ ¬ (tree [twoBlocks]).close.OnePlace := by
  have hrepeats : ¬ Unrepeated (tree [twoBlocks]).children := by
    rw [tree_twoBlocks]
    intro h
    have hblock : firstBlock ["app"]
        (global [.space "app" [shapes "Circle", shapes "Square"]]).children =
          some [shapes "Circle", shapes "Square"] := rfl
    have hdistinct := h.firstBlock_distinct hblock
    exact (List.pairwise_cons.mp hdistinct).1 (shapes "Square") (by simp) rfl rfl rfl
  constructor
  · exact fun h => hrepeats h.unrepeated
  · rwa [onePlace_close, onePlace_iff]

end DeclTree.Source

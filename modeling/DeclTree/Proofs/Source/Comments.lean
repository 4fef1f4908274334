import DeclTree.Proofs.Source.RustComments
import DeclTree.Proofs.Source.Spaces
import DeclTree.Proofs.Source.TypeScriptComments
import Mathlib

/-!
# Comments in source files

Comments are nodes like any other. They make no difference to the declarations of a file as long as
none of them stands at one of the few places where whatever stands there is read. At such a place a
comment is read like anything else: one among the bounds of a trait is taken for a trait.
-/

namespace DeclTree.Language

open ParseTree

def isComment : Language → ParseTree → Bool
  | .rust => Rust.isComment
  | .typeScript => TypeScript.isComment

/-- No comment in a file stands where it would be read. -/
def Undisturbed : Language → ParseTree → Prop
  | .rust => Everywhere Rust.Undisturbed
  | .typeScript => Everywhere TypeScript.Undisturbed

/-- The declarations of a file are those of the file without its comments, unless one of them stands
where it is read. -/
theorem declarations_of_stripped {language : Language} {file : ParseTree}
    (h : language.Undisturbed file) :
    language.declarations (file.strip language.isComment) = language.declarations file := by
  cases language with
  | rust => exact Rust.declarations_strip h
  | typeScript => exact TypeScript.declarations_strip h

open Source (token)

/-- A struct with an attribute, and comments around it and in it. -/
def commentedStruct : ParseTree :=
  .node ⟨"source_file", true, "",
      "#[derive(Debug)] // shown\nstruct Point \x7b /* abscissa */ x: i32 \x7d"⟩ [
    .node ⟨"attribute_item", true, "", "#[derive(Debug)]"⟩ [
      token "#" false "" "#",
      token "[" false "" "[",
      .node ⟨"attribute", true, "", "derive(Debug)"⟩ [
        token "identifier" true "" "derive",
        token "token_tree" true "arguments" "(Debug)"],
      token "]" false "" "]"],
    .node ⟨"line_comment", true, "", "// shown"⟩ [token "//" false "" "//"],
    .node ⟨"struct_item", true, "", "struct Point \x7b /* abscissa */ x: i32 \x7d"⟩ [
      token "struct" false "" "struct",
      token "type_identifier" true "name" "Point",
      .node ⟨"field_declaration_list", true, "body", "\x7b /* abscissa */ x: i32 \x7d"⟩ [
        token "\x7b" false "" "\x7b",
        .node ⟨"block_comment", true, "", "/* abscissa */"⟩ [
          token "/*" false "" "/*", token "*/" false "" "*/"],
        .node ⟨"field_declaration", true, "", "x: i32"⟩ [
          token "field_identifier" true "name" "x",
          token ":" false "" ":",
          token "primitive_type" true "type" "i32"],
        token "\x7d" false "" "\x7d"]]]

theorem undisturbed_commentedStruct : rust.Undisturbed commentedStruct := by
  simp [Undisturbed, commentedStruct, token, everywhere_node, Rust.undisturbed_iff, Nameless,
    Rust.isComment, Rust.isAttribute, kind, field, child?, firstNamed?, ParseTree.namedChildren,
    named]

def commentedBody : String := "\x7b /* shown */ @Log draw() \x7b\x7d \x7d"

/-- A class with a comment before the decorator of a method. -/
def commentedClass : ParseTree :=
  .node ⟨"program", true, "", "class Point " ++ commentedBody⟩ [
    .node ⟨"class_declaration", true, "", "class Point " ++ commentedBody⟩ [
      token "class" false "" "class",
      token "type_identifier" true "name" "Point",
      .node ⟨"class_body", true, "body", commentedBody⟩ [
        token "\x7b" false "" "\x7b",
        token "comment" true "" "/* shown */",
        .node ⟨"decorator", true, "decorator", "@Log"⟩ [
          token "@" false "" "@", token "identifier" true "" "Log"],
        .node ⟨"method_definition", true, "", "draw() \x7b\x7d"⟩ [
          token "property_identifier" true "name" "draw",
          .node ⟨"formal_parameters", true, "parameters", "()"⟩ [
            token "(" false "" "(", token ")" false "" ")"],
          .node ⟨"statement_block", true, "body", "\x7b\x7d"⟩ [
            token "\x7b" false "" "\x7b", token "\x7d" false "" "\x7d"]],
        token "\x7d" false "" "\x7d"]]]

theorem undisturbed_commentedClass : typeScript.Undisturbed commentedClass := by
  simp [Undisturbed, commentedClass, token, everywhere_node, TypeScript.undisturbed_iff, Nameless,
    TypeScript.isComment, TypeScript.ReadsFirst, TypeScript.typeListKinds, kind, field, firstNamed?,
    ParseTree.namedChildren, named, List.filter_cons]

theorem commented_of_stripped :
    (rust.Undisturbed commentedStruct ∧
      rust.declarations (commentedStruct.strip rust.isComment) =
        rust.declarations commentedStruct) ∧
    typeScript.Undisturbed commentedClass ∧
      typeScript.declarations (commentedClass.strip typeScript.isComment) =
        typeScript.declarations commentedClass :=
  ⟨⟨undisturbed_commentedStruct, declarations_of_stripped undisturbed_commentedStruct⟩,
    undisturbed_commentedClass, declarations_of_stripped undisturbed_commentedClass⟩

/-- A comment as the first of the bounds of a trait. -/
def closedComment : ParseTree :=
  .node ⟨"block_comment", true, "", "/* closed */"⟩ [
    token "/*" false "" "/*", token "*/" false "" "*/"]

def area : ParseTree := token "type_identifier" true "" "Area"

def commentedBounds : ParseTree :=
  .node ⟨"trait_bounds", true, "bounds", ": /* closed */ Area"⟩ [
    token ":" false "" ":", closedComment, area]

/-- A file with a trait that has the given bounds. -/
def traitOver (bounds : ParseTree) : ParseTree :=
  .node ⟨"source_file", true, "", "trait Shape: /* closed */ Area \x7b\x7d"⟩ [
    .node ⟨"trait_item", true, "", "trait Shape: /* closed */ Area \x7b\x7d"⟩ [
      token "trait" false "" "trait",
      token "type_identifier" true "name" "Shape",
      bounds,
      .node ⟨"declaration_list", true, "body", "\x7b\x7d"⟩ [
        token "\x7b" false "" "\x7b", token "\x7d" false "" "\x7d"]]]

theorem strip_traitOver {bounds : ParseTree} (h : bounds.kind = "trait_bounds") :
    (traitOver bounds).strip Rust.isComment = traitOver (bounds.strip Rust.isComment) := by
  rw [kind] at h
  simp [traitOver, strip, stripAll, token, Rust.isComment, kind, h]

theorem declarations_traitOver {bounds : ParseTree} (hkind : bounds.kind = "trait_bounds")
    (hfield : bounds.field = "bounds") :
    rust.declarations (traitOver bounds) =
      [.node ((Rust.boundTypes bounds).foldl Rust.addInterface
        { kind := .interface, name := "Shape", visibility := .private }) []] := by
  rw [kind] at hkind
  rw [field] at hfield
  simp [traitOver, token, Language.declarations, Rust.declarations, Rust.items, Rust.itemsFrom,
    Rust.item, Rust.blocks, Rust.plainItem?, Rust.trait?, Rust.declare?, Rust.members,
    Rust.withPreceding, Rust.typeParameters, Rust.predicates, Rust.visibility,
    Rust.attributesAmong, childText?, child?, childOfKind?, named, kind, field, ParseTree.text,
    Declaration.mapHeader, Declaration.addChildren, hkind, hfield]

theorem boundTypes_commentedBounds :
    Rust.boundTypes commentedBounds = [⟨"", "/* closed */", []⟩, ⟨"", "Area", []⟩] ∧
      Rust.boundTypes (commentedBounds.strip Rust.isComment) = [⟨"", "Area", []⟩] := by
  have hcomment : closedComment.typeName? = some ⟨"", "/* closed */", []⟩ := by cbv
  have harea : area.typeName? = some ⟨"", "Area", []⟩ := by cbv
  have hchildren : commentedBounds.namedChildren = [closedComment, area] := rfl
  have hstripped : stripAll Rust.isComment [closedComment, area] = [area] := by
    rw [stripAll_cons_pos rfl, stripAll_cons_neg rfl, stripAll_nil]
    rfl
  rw [Rust.boundTypes, Rust.boundTypes, namedChildren_strip, hchildren, hstripped]
  simp [show closedComment.kind = "block_comment" from rfl,
    show area.kind = "type_identifier" from rfl, hcomment, harea]

/-- The comment is taken for a trait that is extended too. -/
theorem not_stripped_commentedTrait :
    rust.declarations ((traitOver commentedBounds).strip rust.isComment) ≠
      rust.declarations (traitOver commentedBounds) := by
  obtain ⟨hread, hstripped⟩ := boundTypes_commentedBounds
  have hcomment : rust.isComment = Rust.isComment := rfl
  rw [hcomment, strip_traitOver rfl, declarations_traitOver (by simp; rfl) (by simp; rfl),
    declarations_traitOver rfl rfl, hread, hstripped]
  intro heq
  have hinterfaces := congrArg (List.map fun d => d.header.interfaces.map TypeName.name) heq
  revert hinterfaces
  decide +kernel

end DeclTree.Language

import DeclTree.Load
import DeclTree.Proofs.Inheritance.Frame
import DeclTree.Proofs.Source.Containment

/-!
# Interfaces of Rust types

A trait may be derived, be a supertrait, be implemented by any number of blocks, be spelled in many
ways and be inherited on top of that. A declaration has it once all the same. Everything that adds
an interface looks for its canonical name first: reading an attribute, a list of supertraits or a
block does, and so does closing. Merging takes headers as they are.
-/

open DeclTree.TypeName

namespace DeclTree

/-- No two interfaces have the same canonical name. -/
def Header.ListsOnce (h : Header) : Prop := (canonicals h.interfaces).Nodup

theorem Header.listsOnce_of_nil {h : Header} (hnil : h.interfaces = []) : h.ListsOnce := by
  rw [ListsOnce, hnil, canonicals_nil]
  exact .nil

namespace Declaration

/-- No declaration in a tree has two interfaces of the same canonical name. -/
inductive ListsOnce : Declaration → Prop
  | node {header : Header} {children : List Declaration} (own : header.ListsOnce)
      (inside : ∀ c ∈ children, ListsOnce c) : ListsOnce (.node header children)

/-- The same for all in a list. -/
def AllListOnce (ds : List Declaration) : Prop := ∀ d ∈ ds, ListsOnce d

theorem ListsOnce.own {d : Declaration} (h : d.ListsOnce) : d.header.ListsOnce := by
  cases h with
  | node own inside => exact own

theorem ListsOnce.inside {d : Declaration} (h : d.ListsOnce) : AllListOnce d.children := by
  cases h with
  | node own inside => exact inside

theorem allListOnce_nil : AllListOnce [] := by simp [AllListOnce]

theorem AllListOnce.append {ds es : List Declaration} (hds : AllListOnce ds)
    (hes : AllListOnce es) : AllListOnce (ds ++ es) := by
  intro d hd
  rcases List.mem_append.mp hd with hd | hd
  · exact hds d hd
  · exact hes d hd

theorem allListOnce_filterMap {α : Type} {f : α → Option Declaration} {as : List α}
    (h : ∀ a d, f a = some d → ListsOnce d) : AllListOnce (as.filterMap f) := by
  intro d hd
  obtain ⟨a, -, ha⟩ := List.mem_filterMap.mp hd
  exact h a d ha

theorem allListOnce_elim {α : Type} {f : α → List Declaration} (o : Option α)
    (h : ∀ a, AllListOnce (f a)) : AllListOnce (o.elim [] f) := by
  cases o with
  | none => exact allListOnce_nil
  | some a => exact h a

theorem ListsOnce.mapHeader {d : Declaration} (h : d.ListsOnce) {f : Header → Header}
    (hf : ∀ header : Header, header.ListsOnce → (f header).ListsOnce) :
    (d.mapHeader f).ListsOnce := by
  cases h with
  | node own inside => exact .node (hf _ own) inside

theorem ListsOnce.withVisibility {d : Declaration} (h : d.ListsOnce)
    (visibility : Accessibility) : (d.withVisibility visibility).ListsOnce :=
  h.mapHeader fun _ hown => hown

theorem ListsOnce.addChildren {d : Declaration} (h : d.ListsOnce) {more : List Declaration}
    (hmore : AllListOnce more) : (d.addChildren more).ListsOnce := by
  cases h with
  | node own inside => exact .node own (AllListOnce.append inside hmore)

/-- A declaration with no interfaces and nothing in it. -/
theorem listsOnce_bare {header : Header} (h : header.interfaces = []) :
    ListsOnce (.node header []) :=
  .node (Header.listsOnce_of_nil h) (by simp)

theorem listsOnce_space (name : String) {ds : List Declaration} (h : AllListOnce ds) :
    ListsOnce (space name ds) := .node (Header.listsOnce_of_nil rfl) h

/-! ## Merging and closing -/

theorem allListOnce_nested {ds : List Declaration} (h : AllListOnce ds) (segments : List String) :
    AllListOnce (nested segments ds) := by
  induction segments with
  | nil => exact h
  | cons segment segments ih =>
    intro d hd
    obtain rfl := List.mem_singleton.mp hd
    exact listsOnce_space segment ih

theorem allListOnce_mergeAll (siblings ds : List Declaration) (hsiblings : AllListOnce siblings)
    (hds : AllListOnce ds) : AllListOnce (mergeAll siblings ds) := by
  induction siblings, ds using mergeAll_induction with
  | nil siblings => simpa using hsiblings
  | behind siblings d ds _ hmerge ih =>
    rw [mergeAll_cons, hmerge]
    have hd : AllListOnce [d] := fun c hc => hds c (by simp_all)
    exact ih (hsiblings.append hd) fun c hc => hds c (by simp [hc])
  | inside front e rest d ds hkind hspace hmerge ihChildren ih =>
    -- The folded namespace has the header of the one that was there.
    have he : e.ListsOnce := hsiblings e (by simp)
    have hd : d.ListsOnce := hds d (by simp)
    rw [mergeAll_cons, hmerge]
    refine ih ?_ fun c hc => hds c (by simp [hc])
    intro c hc
    simp only [List.mem_append, List.mem_cons] at hc
    rcases hc with hc | rfl | hc
    · exact hsiblings c (by simp [hc])
    · exact .node he.own (ihChildren he.inside hd.inside)
    · exact hsiblings c (by simp [hc])

/-- Closing adds new interfaces only, and no two of one name. -/
theorem ListsOnce.closeIn {root d : Declaration} (h : d.ListsOnce) (scope : String) :
    (Inheritance.closeIn (Inheritance.sites "" root) scope d).ListsOnce := by
  induction h generalizing scope with
  | @node header children own inside ih =>
    obtain ⟨more, hclose, hmore⟩ := Inheritance.exists_addition_closeHeader root scope header
    rw [Inheritance.closeIn, Inheritance.closeAllIn_eq_map, hclose]
    refine .node ?_ ?_
    · rw [Header.ListsOnce, canonicals_append, List.nodup_append']
      exact ⟨own, hmore.distinct, fun name hold hnew => hmore.new name hnew hold⟩
    · intro d hd
      obtain ⟨c, hc, rfl⟩ := List.mem_map.mp hd
      exact ih c hc _

theorem ListsOnce.close {root : Declaration} (h : root.ListsOnce) : root.close.ListsOnce :=
  h.closeIn ""

end Declaration

open Declaration

/-! ## Reading items -/

namespace Rust

open ParseTree

theorem listsOnce_addInterface {header : Header} (h : header.ListsOnce) (type : TypeName) :
    (addInterface header type).ListsOnce := by
  unfold addInterface
  split
  · exact h
  · rename_i hlisted
    rw [listed_iff] at hlisted
    rw [Header.ListsOnce, canonicals_append, List.nodup_append']
    refine ⟨h, by simp, ?_⟩
    intro name hname hnew
    obtain rfl := List.mem_singleton.mp hnew
    exact hlisted hname

theorem listsOnce_foldl {α : Type} {f : Header → α → Header}
    (hf : ∀ {header : Header}, header.ListsOnce → ∀ a, (f header a).ListsOnce) (as : List α)
    {header : Header} (h : header.ListsOnce) : (as.foldl f header).ListsOnce := by
  induction as generalizing header with
  | nil => exact h
  | cons a as ih => exact ih (hf h a)

theorem listsOnce_annotate {header : Header} (h : header.ListsOnce) (item : ParseTree) :
    (annotate header item).ListsOnce := by
  unfold annotate
  split
  · exact h
  · split
    · exact h
    · dsimp only
      split
      · exact listsOnce_foldl listsOnce_addInterface _ h
      · exact h

theorem allListOnce_typeParameters (t : ParseTree) : AllListOnce (typeParameters t) := by
  intro d hd
  obtain ⟨p, -, rfl⟩ := List.mem_map.mp hd
  exact listsOnce_bare rfl

section Items

variable {kind : Kind} {before : List ParseTree} {shown : Accessibility} {t : ParseTree}
  {d : Declaration}

theorem listsOnce_declare? (h : declare? kind before t = some d) : d.ListsOnce := by
  obtain ⟨name, -, hd⟩ := Option.bind_eq_some_iff.mp h
  cases hd
  refine .node ?_ (allListOnce_typeParameters t)
  exact listsOnce_foldl listsOnce_annotate _ (Header.listsOnce_of_nil rfl)

theorem listsOnce_field? (h : field? before shown t = some d) : d.ListsOnce := by
  obtain ⟨e, he, rfl⟩ := Option.map_eq_some_iff.mp h
  exact (listsOnce_declare? he).withVisibility shown

theorem listsOnce_parameter? (h : parameter? t = some d) : d.ListsOnce := by
  unfold parameter? at h
  split at h
  · obtain ⟨pattern, -, rfl⟩ := Option.map_eq_some_iff.mp h
    exact listsOnce_bare rfl
  · cases h

theorem listsOnce_method? (h : method? before shown t = some d) : d.ListsOnce := by
  obtain ⟨e, he, rfl⟩ := Option.map_eq_some_iff.mp h
  refine ((listsOnce_declare? he).withVisibility shown).addChildren ?_
  exact allListOnce_elim _ fun list => allListOnce_filterMap fun _ _ => listsOnce_parameter?

theorem allListOnce_members (imposed : Option Accessibility) (body : ParseTree) :
    AllListOnce (members imposed body) := by
  refine allListOnce_filterMap ?_
  rintro ⟨before, t⟩ d h
  dsimp only at h
  split at h
  · exact listsOnce_method? h
  · exact listsOnce_method? h
  · exact listsOnce_field? h
  · cases h

theorem allListOnce_structFields (t : ParseTree) : AllListOnce (structFields t) := by
  unfold structFields
  split
  · exact allListOnce_nil
  · split
    · refine allListOnce_filterMap ?_
      rintro ⟨before, f⟩ d h
      dsimp only at h
      split at h
      · exact listsOnce_field? h
      · cases h
    · exact allListOnce_nil

theorem allListOnce_variants (t : ParseTree) : AllListOnce (variants t) := by
  refine allListOnce_elim _ fun body => allListOnce_filterMap ?_
  rintro ⟨before, v⟩ d h
  dsimp only at h
  split at h
  · exact listsOnce_field? h
  · cases h

theorem listsOnce_plainItem? (h : plainItem? before t = some d) : d.ListsOnce := by
  unfold plainItem? at h
  split at h
  · obtain ⟨e, he, rfl⟩ := Option.map_eq_some_iff.mp h
    exact (listsOnce_declare? he).addChildren (allListOnce_structFields t)
  · obtain ⟨e, he, rfl⟩ := Option.map_eq_some_iff.mp h
    exact (listsOnce_declare? he).addChildren (allListOnce_variants t)
  · obtain ⟨e, he, rfl⟩ := Option.map_eq_some_iff.mp h
    refine ((listsOnce_declare? he).mapHeader fun header hown => ?_).addChildren ?_
    · exact listsOnce_foldl listsOnce_addInterface _ hown
    · exact allListOnce_elim _ (allListOnce_members (some .public))
  · exact listsOnce_method? h
  · exact listsOnce_field? h
  · exact listsOnce_field? h
  · cases h

theorem ListsOnce.extend (h : d.ListsOnce) (block : ParseTree) : (extend block d).ListsOnce := by
  refine (h.mapHeader fun header hown => ?_).addChildren ?_
  · exact listsOnce_foldl listsOnce_addInterface _ hown
  · exact allListOnce_elim _ (allListOnce_members _)

end Items

theorem allListOnce_attach {ds : List Declaration} (h : AllListOnce ds) (block : ParseTree) :
    AllListOnce (attach ds block) := by
  unfold attach
  split
  · exact h
  · intro d hd
    rcases mem_changeLast hd with hd | ⟨e, he, -, rfl⟩
    · exact h d hd
    · exact ListsOnce.extend (h e he) block

theorem allListOnce_items {siblings : List ParseTree} (h : AllListOnce (itemsFrom [] siblings)) :
    AllListOnce (items siblings) := by
  suffices hblocks : ∀ (blocks : List ParseTree) (ds : List Declaration), AllListOnce ds →
      AllListOnce (blocks.foldl attach ds) from hblocks (blocks siblings) _ h
  intro blocks
  induction blocks with
  | nil => exact fun _ hds => hds
  | cons block blocks ih => exact fun ds hds => ih _ (allListOnce_attach hds block)

/-- In all that is read from a file, modules included, no declaration has an interface twice. -/
theorem allListOnce_declarations (file : ParseTree) : AllListOnce (declarations file) := by
  suffices h : (∀ before, AllListOnce (item before file)) ∧ AllListOnce (items file.children)
    from h.2
  induction file using ParseTree.induction with
  | node label children ih =>
    constructor
    · intro before d hd
      rw [item] at hd
      split at hd
      · split at hd
        · rename_i ds name hbody hname
          obtain ⟨body, hmem, rfl⟩ := exists_of_bodyItems? hbody
          obtain rfl := List.mem_singleton.mp hd
          exact listsOnce_space name (ih body hmem).2
        · cases hd
      · exact listsOnce_plainItem? (Option.mem_toList.mp hd)
    · refine allListOnce_items fun d hd => ?_
      obtain ⟨t, ht, before, hd⟩ := exists_of_mem_itemsFrom hd
      exact (ih t ht).1 before d hd

end Rust

/-! ## Loading a directory -/

namespace Source

theorem allListOnce_found? {f : FoundFile} {ds : List Declaration} (h : found? f = some ds)
    (hrust : f.extension? = some "rs") : AllListOnce ds := by
  rw [extension?_eq] at hrust
  unfold found? declarations at h
  rw [hrust] at h
  cases htext : f.content.text? with
  | none =>
    rw [htext] at h
    cases h
  | some text =>
    rw [htext] at h
    cases htree : f.content.tree with
    | none =>
      rw [htree] at h
      cases h
      exact allListOnce_nil
    | some file =>
      rw [htree] at h
      cases h
      exact Rust.allListOnce_declarations file

theorem listsOnce_tree {files : List FoundFile} (h : ∀ f ∈ files, f.extension? = some "rs") :
    (tree files).ListsOnce := by
  have hforest : AllListOnce (forest files) := by
    intro d hd
    obtain ⟨f, hf, hd⟩ := List.mem_flatMap.mp hd
    cases hfound : found? f with
    | none => simp [hfound] at hd
    | some ds =>
      rw [hfound, Option.elim_some] at hd
      exact allListOnce_nested (allListOnce_found? hfound (h f hf)) (segments f.names) d hd
  rw [tree_eq]
  exact listsOnce_space "" (allListOnce_mergeAll [] (forest files) allListOnce_nil hforest)

end Source

/-- A directory of which only Rust files are read is loaded, and no declaration in its tree has two
interfaces of the same canonical name. -/
theorem Load.directory_listsOnce {whole : FileTree} {path : String} {options : Source.Options}
    {place : List String} {entries : List (String × FileTree)}
    (hplace : whole.resolve path = .ok (place, .directory entries))
    (hrust : ∀ f ∈ Source.files whole place options, f.extension? = some "rs") :
    ∃ root, auto whole path options = .ok root ∧ root.ListsOnce := by
  have hfiles : ∀ f ∈ if isHyphen path then [] else Source.files whole place options,
      f.extension? = some "rs" := by
    split
    · simp
    · exact hrust
  refine ⟨_, ?_, (Source.listsOnce_tree hfiles).close⟩
  simp only [auto, hplace, source]

namespace Load

open Source (token)

def deriveAttribute : ParseTree :=
  .node ⟨"attribute_item", true, "", "#[derive(Sum<u8>)]"⟩ [
    token "#" false "" "#",
    token "[" false "" "[",
    .node ⟨"attribute", true, "", "derive(Sum<u8>)"⟩ [
      token "identifier" true "" "derive",
      token "token_tree" true "arguments" "(Sum<u8>)"],
    token "]" false "" "]"]

def chimeStruct : ParseTree :=
  .node ⟨"struct_item", true, "", "struct Chime;"⟩ [
    token "struct" false "" "struct",
    token "type_identifier" true "name" "Chime",
    token ";" false "" ";"]

/-- A block for the trait that the struct derives, spelled with blanks. -/
def chimeBlock : ParseTree :=
  .node ⟨"impl_item", true, "", "impl Sum < u8 > for Chime \x7b\x7d"⟩ [
    token "impl" false "" "impl",
    token "generic_type" true "trait" "Sum < u8 >",
    token "for" false "" "for",
    token "type_identifier" true "type" "Chime",
    token "declaration_list" true "body" "\x7b\x7d"]

def chimeText : String :=
  "#[derive(Sum<u8>)]\nstruct Chime;\nimpl Sum < u8 > for Chime \x7b\x7d"

def chimeTree : ParseTree :=
  .node ⟨"source_file", true, "", chimeText⟩ [deriveAttribute, chimeStruct, chimeBlock]

example :
    Rust.declarations chimeTree =
      [.node
        { kind := .struct, name := "Chime", visibility := .private,
          annotations := [⟨"", "derive", []⟩], interfaces := [⟨"", "Sum", [⟨"", "u8", []⟩]⟩] }
        []] := by
  cbv

def chimeContent : FileContent := ⟨chimeText.toUTF8, some chimeTree⟩

/-- A directory with one file in it. -/
def directoryOf (content : FileContent) : FileTree := .directory [("lib.rs", .file content)]

theorem files_directoryOf (content : FileContent) :
    Source.files (directoryOf content) [] {} = [⟨["lib.rs"], content⟩] := by
  cbv

theorem chimes_listsOnce :
    (∀ f ∈ Source.files (directoryOf chimeContent) [] {}, f.extension? = some "rs") ∧
      ∃ root, auto (directoryOf chimeContent) "." {} = .ok root ∧ root.ListsOnce := by
  have hrust : ∀ f ∈ Source.files (directoryOf chimeContent) [] {},
      f.extension? = some "rs" := by
    rw [files_directoryOf]
    intro f hf
    obtain rfl := List.mem_singleton.mp hf
    decide
  exact ⟨hrust, directory_listsOnce rfl hrust⟩

end Load

end DeclTree

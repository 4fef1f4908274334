import DeclTree.CommandLine.Run
import DeclTree.Proofs.Declaration.RoundTrip
import DeclTree.Proofs.Outcomes
import DeclTree.Proofs.Query.Schedules

/-!
# Command lines as sets of filters

A setting that may be given several times stands for the set of its values: neither their order nor
repetitions change what a command line puts out. Its query is not the same, since conditions keep
their values as lists, but it accepts the same declarations. Whether the tree is walked in sequence
or by any schedule does not show either, because a report is sorted.
-/

namespace DeclTree

namespace Query

/-- Both queries enter and report the same declarations. -/
structure Alike (q r : Query) : Prop where
  visits : ∀ d, q.passesVisit d = r.passesVisit d
  includes : ∀ d scope, q.includes d scope = r.includes d scope

theorem Alike.run_eq {q r : Query} (h : q.Alike r) (root : Declaration) :
    q.run root = r.run root := by
  rw [run_eq_runUnpruned, runUnpruned_eq_map, run_eq_runUnpruned, runUnpruned_eq_map]
  congr 1
  apply List.filter_congr
  intro o _
  rw [decide_eq_decide]
  simp only [Reports, AdmitsAll, h.visits, h.includes]

end Query

/-! ## Conditions on lists of values -/

section Conditions

variable {α β γ δ : Type} {xs ys : List α}

/-- Two conditions, or none, accept the same. -/
def SameTest (accepts : γ → δ → Bool) (c d : Option γ) : Prop :=
  ∀ x, (c.all fun c => accepts c x) = d.all fun d => accepts d x

/-- A condition made of all that a list gives, or some other if the list is empty, accepts the same
for another list with the same members. -/
theorem condition_of_mem_iff {accepts : γ → δ → Bool} {f : α → Except Error β} {use : List β → γ}
    {other c : Option γ}
    (huse : ∀ bs cs, (∀ b, b ∈ bs ↔ b ∈ cs) → ∀ x, accepts (use bs) x = accepts (use cs) x)
    (h : ∀ x, x ∈ xs ↔ x ∈ ys)
    (hxs : (if xs.isEmpty then .ok other else (xs.mapM f).map fun bs => some (use bs)) = .ok c) :
    ∃ d, (if ys.isEmpty then .ok other else (ys.mapM f).map fun bs => some (use bs)) = .ok d ∧
      SameTest accepts c d := by
  rw [isEmpty_eq_of_mem_iff h] at hxs
  split at hxs
  · rename_i hempty
    cases hxs
    exact ⟨other, if_pos hempty, fun _ => rfl⟩
  · rename_i hempty
    obtain ⟨bs, hbs, rfl⟩ := map_eq_ok.mp hxs
    obtain ⟨cs, hcs, hmem⟩ := mapM_of_mem_iff h hbs
    refine ⟨some (use cs), ?_, ?_⟩
    · rw [if_neg hempty, hcs]
      rfl
    · intro x
      exact huse bs cs hmem x

end Conditions

theorem TypeName.mem_canonicals_iff_of_mem_iff {ts us : List TypeName} (h : ∀ t, t ∈ ts ↔ t ∈ us)
    (name : String) : name ∈ canonicals ts ↔ name ∈ canonicals us := by
  simp only [canonicals, List.mem_map, h]

namespace CommandLine.Arguments

/-- A command line without the settings that may be given several times, and without the switch for
walking in sequence. -/
def single (a : Arguments) : Arguments :=
  { a with
    kinds := []
    visibilities := []
    implements := []
    annotatedWith := []
    constraints := []
    extensions := []
    sequential := false }

/-- Two command lines that differ at most in the order and repetition of values, and in whether they
ask for a walk in sequence. -/
structure SameFilters (a b : Arguments) : Prop where
  single : a.single = b.single
  kinds : ∀ kind, kind ∈ a.kinds ↔ kind ∈ b.kinds
  visibilities : ∀ text, text ∈ a.visibilities ↔ text ∈ b.visibilities
  implements : ∀ text, text ∈ a.implements ↔ text ∈ b.implements
  annotatedWith : ∀ text, text ∈ a.annotatedWith ↔ text ∈ b.annotatedWith
  constraints : ∀ text, text ∈ a.constraints ↔ text ∈ b.constraints
  extensions : ∀ text, text ∈ a.extensions ↔ text ∈ b.extensions

namespace SameFilters

variable {a b : Arguments}

theorem symm (h : a.SameFilters b) : b.SameFilters a where
  single := h.single.symm
  kinds kind := (h.kinds kind).symm
  visibilities text := (h.visibilities text).symm
  implements text := (h.implements text).symm
  annotatedWith text := (h.annotatedWith text).symm
  constraints text := (h.constraints text).symm
  extensions text := (h.extensions text).symm

theorem kindSet_eq (h : a.SameFilters b) :
    (if a.kinds.isEmpty then .all else .ofList a.kinds : KindSet) =
      if b.kinds.isEmpty then .all else .ofList b.kinds := by
  have hset : KindSet.ofList a.kinds = .ofList b.kinds := by
    apply KindSet.ext_contains
    intro kind
    rw [KindSet.contains_ofList, KindSet.contains_ofList, contains_eq_of_mem_iff h.kinds]
  rw [isEmpty_eq_of_mem_iff h.kinds, hset]

theorem sameTest_visibility (h : a.SameFilters b) {c : Option VisibilityCondition}
    (hc : a.visibilityCondition = .ok c) :
    ∃ d, b.visibilityCondition = .ok d ∧ SameTest VisibilityCondition.accepts c d := by
  refine condition_of_mem_iff ?_ h.visibilities hc
  intro vs ws hmem v
  rw [Bool.eq_iff_iff, VisibilityCondition.accepts_oneOf, VisibilityCondition.accepts_oneOf]
  simp only [hmem]

theorem sameTest_interfaces (h : a.SameFilters b) {c : Option TypesCondition}
    (hc : a.interfacesCondition = .ok c) :
    ∃ d, b.interfacesCondition = .ok d ∧ SameTest TypesCondition.accepts c d := by
  refine condition_of_mem_iff ?_ h.implements hc
  intro ts us hmem types
  have hnames := TypeName.mem_canonicals_iff_of_mem_iff hmem
  simp only [TypesCondition.includesAllOf, TypesCondition.accepts, isEmpty_eq_of_mem_iff hnames,
    all_eq_of_mem_iff hnames]

/-- What a condition on annotations is applied to has to have one, so whether there is a condition
counts too. -/
theorem sameTest_annotations (h : a.SameFilters b) {c : Option TypesCondition}
    (hc : a.annotationsCondition = .ok c) :
    ∃ d, b.annotationsCondition = .ok d ∧
      SameTest (fun c types => !types.isEmpty && c.accepts types) c d := by
  have hannotated : a.annotated = b.annotated := congrArg (·.annotated) h.single
  unfold Arguments.annotationsCondition at hc ⊢
  rw [← hannotated]
  refine condition_of_mem_iff ?_ h.annotatedWith hc
  intro ts us hmem types
  have hnames := TypeName.mem_canonicals_iff_of_mem_iff hmem
  simp only [TypesCondition.includesOneOf, TypesCondition.accepts, any_eq_of_mem_iff hnames]

theorem sameTest_generic (h : a.SameFilters b) {c : Option GenericCondition}
    (hc : a.genericCondition = .ok c) :
    ∃ d, b.genericCondition = .ok d ∧ SameTest GenericCondition.acceptsAll c d := by
  have hgeneric : a.generic = b.generic := congrArg (·.generic) h.single
  unfold Arguments.genericCondition at hc ⊢
  rw [← hgeneric]
  refine condition_of_mem_iff ?_ h.constraints hc
  intro cs ds hmem parameters
  simp only [GenericCondition.acceptsAll, GenericCondition.accepts, Option.all_some,
    ConstraintCondition.accepts, isEmpty_eq_of_mem_iff hmem, all_eq_of_mem_iff hmem]

/-- The queries of both are there or not together, and enter and report the same declarations. -/
theorem exists_alike_query (h : a.SameFilters b) {q : Query} (hq : a.query = .ok q) :
    ∃ r, b.query = .ok r ∧ q.Alike r := by
  unfold Arguments.query at hq ⊢
  simp only [bind_eq_ok] at hq ⊢
  obtain ⟨name, hname, visibility, hvisibility, interfaces, hinterfaces, annotations, hannotations,
    generic, hgeneric, hquery⟩ := hq
  obtain ⟨visibility', hvisibility', hsameVisibility⟩ := h.sameTest_visibility hvisibility
  obtain ⟨interfaces', hinterfaces', hsameInterfaces⟩ := h.sameTest_interfaces hinterfaces
  obtain ⟨annotations', hannotations', hsameAnnotations⟩ := h.sameTest_annotations hannotations
  obtain ⟨generic', hgeneric', hsameGeneric⟩ := h.sameTest_generic hgeneric
  have hname' : b.nameCondition = .ok name := (congrArg (·.nameCondition) h.single).symm.trans hname
  refine ⟨_, ⟨name, hname', visibility', hvisibility', interfaces', hinterfaces', annotations',
    hannotations', generic', hgeneric', rfl⟩, ?_⟩
  have hscope : a.scopeCondition = b.scopeCondition :=
    congrArg (·.scopeCondition) h.single
  cases hquery
  constructor
  · intro d
    rfl
  · intro d scope
    have hvisibility := hsameVisibility d.header.visibility
    have hinterfaces := hsameInterfaces d.header.interfaces
    have hannotations := hsameAnnotations d.header.annotations
    have hgeneric := hsameGeneric d.typeParameters
    simp only [Query.includes, hscope, h.kindSet_eq, hvisibility, hinterfaces, hannotations,
      hgeneric]

theorem files_eq (h : a.SameFilters b) (whole : FileTree) (place : List String) :
    Source.files whole place a.options = Source.files whole place b.options := by
  have hdepth : a.options.depth = b.options.depth := congrArg (·.depth) h.single
  have hwanted : Source.isWanted a.options = Source.isWanted b.options := by
    funext f
    unfold Source.isWanted
    split
    · rfl
    · rw [Arguments.options, Arguments.options, isEmpty_eq_of_mem_iff h.extensions,
        contains_eq_of_mem_iff h.extensions]
  unfold Source.files
  rw [hdepth, hwanted]

theorem auto_eq (h : a.SameFilters b) (whole : FileTree) :
    Load.auto whole a.path a.options = Load.auto whole b.path b.options := by
  have hpath : a.path = b.path := congrArg (·.path) h.single
  unfold Load.auto Load.source
  rw [hpath]
  simp only [h.files_eq]

end SameFilters

/-! ## What is put out -/

/-- What a command line may find with a query in a tree: what the walk in sequence finds, if it asks
for that, and else what is found at the end of any schedule. -/
def Finds (a : Arguments) (q : Query) (root : Declaration) (found : List Entity) : Prop :=
  if a.sequential then found = q.run root
  else Query.Pool.Reaches q (.start q root) ⟨0, found⟩

/-- A text that a command line may put out, run in a directory. -/
def MayPrint (a : Arguments) (whole : FileTree) (text : String) : Prop :=
  ∃ q root found, a.query = .ok q ∧ Load.auto whole a.path a.options = .ok root ∧
    a.Finds q root found ∧ report a.format found = text

variable {a b : Arguments}

theorem Finds.perm {q : Query} {root : Declaration} {found : List Entity}
    (h : a.Finds q root found) : found.Perm (q.run root) := by
  unfold Finds at h
  split at h
  · rw [h]
  · have htotal := h.total_eq
    rw [Query.Pool.total_start] at htotal
    rw [← Multiset.coe_eq_coe, ← htotal]
    simp [Query.Pool.total]

theorem exists_finds (a : Arguments) (q : Query) (root : Declaration) :
    ∃ found, a.Finds q root found := by
  unfold Finds
  split
  · exact ⟨_, rfl⟩
  · exact Query.Pool.exists_reaches_end q (.start q root)

theorem run_eq_ok {whole : FileTree} {text : String} :
    a.run whole = .ok text ↔ ∃ q root, a.query = .ok q ∧
      Load.auto whole a.path a.options = .ok root ∧ report a.format (q.run root) = text := by
  simp only [run, Load.process, bind_eq_ok, pure, Except.pure, Except.ok.injEq]
  constructor
  · rintro ⟨q, hq, root, hroot, htext⟩
    exact ⟨q, root, hq, hroot, htext⟩
  · rintro ⟨q, root, hq, hroot, htext⟩
    exact ⟨q, hq, root, hroot, htext⟩

/-- Schedules leave no choice of what is put out. -/
theorem mayPrint_iff {whole : FileTree} {text : String} :
    a.MayPrint whole text ↔ a.run whole = .ok text := by
  rw [run_eq_ok]
  constructor
  · rintro ⟨q, root, found, hq, hroot, hfound, htext⟩
    exact ⟨q, root, hq, hroot, by rw [← report_eq_of_perm a.format hfound.perm, htext]⟩
  · rintro ⟨q, root, hq, hroot, htext⟩
    obtain ⟨found, hfound⟩ := a.exists_finds q root
    exact ⟨q, root, found, hq, hroot, hfound,
      by rw [report_eq_of_perm a.format hfound.perm, htext]⟩

theorem SameFilters.run_eq_ok (h : a.SameFilters b) {whole : FileTree} {text : String}
    (ha : a.run whole = .ok text) : b.run whole = .ok text := by
  rw [Arguments.run_eq_ok] at ha ⊢
  obtain ⟨q, root, hq, hroot, htext⟩ := ha
  obtain ⟨r, hr, halike⟩ := h.exists_alike_query hq
  have hformat : a.format = b.format := congrArg (·.format) h.single
  exact ⟨r, root, hr, h.auto_eq whole ▸ hroot, by rw [← halike.run_eq, ← hformat, htext]⟩

/-- Command lines with the same sets of values put out the same text if either puts out any, and
neither depends on the order in which the tree is walked. -/
theorem run_eq_of_sameFilters (h : a.SameFilters b) (whole : FileTree) (text : String) :
    (a.run whole = .ok text ↔ b.run whole = .ok text) ∧
      (a.MayPrint whole text ↔ a.run whole = .ok text) ∧
      (b.MayPrint whole text ↔ b.run whole = .ok text) :=
  ⟨⟨h.run_eq_ok, h.symm.run_eq_ok⟩, mayPrint_iff, mayPrint_iff⟩

def depot : Declaration :=
  .global [
    .node { kind := .class, name := "Crate", visibility := .public,
            annotations := [⟨"", "Sealed", []⟩], interfaces := [⟨"", "Storage", []⟩] }
      [.typeParameter "T" { valueType := true }],
    .node { kind := .class, name := "Pallet", visibility := .private,
            annotations := [⟨"", "Sealed", []⟩], interfaces := [⟨"", "Storage", []⟩] } []]

/-- A directory with one file in it. -/
def depotFile (text : String) : FileTree :=
  .directory [("depot.json", .file ⟨text.toUTF8, none⟩)]

theorem auto_depotFile (text : String) (options : Source.Options) :
    Load.auto (depotFile text) "depot.json" options = Load.ofText text := by
  have hresolve : (depotFile text).resolve "depot.json" =
      .ok (["depot.json"], .file ⟨text.toUTF8, none⟩) := rfl
  have hcontent : (depotFile text).content [] ["depot.json"] = .ok ⟨text.toUTF8, none⟩ := rfl
  have hextension : (Path.fileName? "depot.json").bind Path.extension? = some "json" := by cbv
  have htext : FileContent.text? ⟨text.toUTF8, none⟩ = some text := fromUTF8?_toUTF8 text
  have hread : (depotFile text).readText "depot.json" = .ok text := by
    simp only [FileTree.readText, hresolve, bind, Except.bind, hcontent, htext, pure, Except.pure]
  simp only [Load.auto, hresolve, hextension, if_true, Load.json, hread]

theorem ofText_depot : Load.ofText depot.toText = .ok depot.close := by
  have hsealed : TypeName.parse "Sealed" = .ok ⟨"", "Sealed", []⟩ := by cbv
  have hstorage : TypeName.parse "Storage" = .ok ⟨"", "Storage", []⟩ := by cbv
  have hnames : depot.types ⊆ [⟨"", "Sealed", []⟩, ⟨"", "Storage", []⟩] := by
    simp [depot, Declaration.global, Declaration.space, Declaration.typeParameter,
      Declaration.types_node, Header.types]
  have hnormal : ∀ t ∈ depot.types, t.Normal := by
    intro t ht
    have hmem := hnames ht
    rw [List.mem_cons, List.mem_singleton] at hmem
    rcases hmem with rfl | rfl
    · exact TypeName.normal_of_parse? (TypeName.parse_eq_ok.mp hsealed)
    · exact TypeName.normal_of_parse? (TypeName.parse_eq_ok.mp hstorage)
  have hnesting : Json.textNesting depot.toText ≤ 127 := by
    rw [Declaration.toText, Json.textNesting_compact depot.writable_toJson]
    decide +kernel
  rw [Load.ofText, Declaration.ofText_toText hnormal, if_pos hnesting]
  rfl

def listed : Arguments where
  path := "depot.json"
  kinds := [.class, .struct]
  visibilities := ["public", "internal"]
  implements := ["Storage"]
  annotatedWith := ["Sealed", "Draft"]
  constraints := ["value"]
  extensions := ["rs", "ts"]

/-- The values of `listed` in another order and some of them twice. -/
def relisted : Arguments where
  path := "depot.json"
  kinds := [.struct, .class, .struct]
  visibilities := ["internal", "public", "internal"]
  implements := ["Storage", "Storage"]
  annotatedWith := ["Draft", "Draft", "Sealed"]
  constraints := ["value", "value"]
  extensions := ["ts", "rs"]
  sequential := true

theorem sameFilters_listed : listed.SameFilters relisted := by
  constructor <;> grind [listed, relisted, single]

def listedQuery : Query where
  kinds := .ofList [.class, .struct]
  visibility := some (.oneOf [.public, .internal])
  interfaces := some (.includesAllOf [⟨"", "Storage", []⟩])
  annotations := some (.includesOneOf [⟨"", "Sealed", []⟩, ⟨"", "Draft", []⟩])
  generic := some { constraint := some (.allOf [.valueType]) }

theorem run_listed : listed.run (depotFile depot.toText) = .ok "Crate<T>\n" := by
  have hquery : listed.query = .ok listedQuery := by cbv
  have hrun : listedQuery.run depot.close = [⟨"Crate", "Crate<T>"⟩] := by decide +kernel
  rw [run_eq_ok]
  refine ⟨listedQuery, depot.close, hquery, (auto_depotFile _ _).trans ofText_depot, ?_⟩
  rw [hrun]
  simp [report, Entity.sort, Report.plain, format, listed]

theorem run_relisted :
    listed.SameFilters relisted ∧ listed.run (depotFile depot.toText) = .ok "Crate<T>\n" ∧
      relisted.run (depotFile depot.toText) = .ok "Crate<T>\n" :=
  ⟨sameFilters_listed, run_listed,
    (run_eq_of_sameFilters sameFilters_listed _ _).1.mp run_listed⟩

end CommandLine.Arguments

end DeclTree

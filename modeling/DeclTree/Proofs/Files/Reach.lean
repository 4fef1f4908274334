import DeclTree.Load
import Mathlib

/-!
# Walks with options

What keeps an entry out of a walk are the rules of the directories above it and its own name, never
how far the walk may go. So a walk with a limit meets the files that the walk without one meets, as
far as they lie within the limit, and in the same order. Extensions only choose among the files that
were met.
-/

namespace DeclTree

/-- Without rules an entry is left out if it is hidden, and only then. -/
theorem IgnoreLevel.leavesOut_of_noRules {levels : List IgnoreLevel}
    (h : ∀ level ∈ levels, level.general = [] ∧ level.repository = [] ∧ level.exclusions = [])
    (place : List String) (name : String) (isDirectory : Bool) :
    leavesOut levels place name isDirectory = isHidden name := by
  have hsilent : ∀ (rules : IgnoreLevel → List IgnoreRule) (levels : List IgnoreLevel) place,
      (∀ level ∈ levels, rules level = []) → verdictBy rules levels place isDirectory = none := by
    intro rules levels place hrules
    rw [verdictBy, List.findSome?_eq_none_iff]
    intro level hlevel
    rw [hrules level hlevel]
    rfl
  have hinside : ∀ level ∈ withinRepository levels, level ∈ levels := by
    intro level hlevel
    unfold withinRepository at hlevel
    split at hlevel
    · simp at hlevel
    · rename_i top rest htop
      rcases List.mem_append.mp hlevel with hfront | hlast
      · exact (List.takeWhile_sublist _).mem hfront
      · obtain rfl := List.mem_singleton.mp hlast
        exact (List.dropWhile_sublist _).mem (htop ▸ List.mem_cons_self)
  rw [leavesOut, verdict, hsilent _ _ _ fun level hlevel => (h level hlevel).1,
    hsilent _ _ _ fun level hlevel => (h level (hinside level hlevel)).2.1,
    hsilent _ _ _ fun level hlevel => (h level (hinside level hlevel)).2.2]
  rfl

namespace FileTree

/-- The names of a file that is met at an entry start with the name of the entry. -/
theorem exists_names_of_mem_filesAt {whole : FileTree} {levels : List IgnoreLevel}
    {place : List String} {reach : Reach} {name : String} {t : FileTree} {f : FoundFile}
    (h : f ∈ filesAt whole levels place reach name t) : ∃ rest, f.names = name :: rest := by
  cases t with
  | directory entries =>
    rw [filesAt] at h
    split at h
    · simp at h
    · split at h
      · simp at h
      · obtain ⟨g, -, rfl⟩ := List.mem_map.mp h
        exact ⟨g.names, rfl⟩
  | file content =>
    rw [filesAt] at h
    split at h
    · simp at h
    · exact ⟨[], by rw [List.mem_singleton.mp h]⟩
  | link target =>
    rw [filesAt] at h
    split at h
    · simp at h
    · split at h
      · exact ⟨[], by rw [List.mem_singleton.mp h]⟩
      · simp at h
  | socket => simp [filesAt] at h

theorem exists_names_of_mem_filesIn {whole : FileTree} {levels : List IgnoreLevel}
    {place : List String} {reach : Reach} {entries : List (String × FileTree)} {f : FoundFile}
    (h : f ∈ filesIn whole levels place reach entries) :
    ∃ name ∈ entries.map Prod.fst, ∃ rest, f.names = name :: rest := by
  induction entries with
  | nil => simp [filesIn] at h
  | cons entry entries ih =>
    obtain ⟨name, t⟩ := entry
    rw [filesIn, List.mem_append] at h
    rcases h with h | h
    · exact ⟨name, List.mem_cons_self, exists_names_of_mem_filesAt h⟩
    · obtain ⟨other, hother, hnames⟩ := ih h
      exact ⟨other, List.mem_cons_of_mem name hother, hnames⟩

/-- A file below a directory lies one directory deeper than it does seen from that directory. -/
theorem depth_below {whole : FileTree} {levels : List IgnoreLevel} {place : List String}
    {reach : Reach} {entries : List (String × FileTree)} {f : FoundFile}
    (h : f ∈ filesIn whole levels place reach entries) (name : String) :
    FoundFile.depth { f with names := name :: f.names } = f.depth + 1 := by
  obtain ⟨first, -, rest, hnames⟩ := exists_names_of_mem_filesIn h
  simp [FoundFile.depth, hnames]

mutual

theorem filesAt_some (whole : FileTree) (levels : List IgnoreLevel) (place : List String)
    (depth : Nat) (name : String) (t : FileTree) :
    filesAt whole levels place (some depth) name t =
      (filesAt whole levels place none name t).filter fun f => f.depth ≤ depth := by
  cases t with
  | directory entries =>
    rw [filesAt, filesAt]
    split
    · rfl
    · rw [below?, List.filter_map]
      cases depth with
      | zero =>
        rw [below?, eq_comm, List.map_eq_nil_iff, List.filter_eq_nil_iff]
        intro f hf
        rw [Function.comp_apply, depth_below hf]
        simp
      | succ depth =>
        rw [below?]
        dsimp only
        rw [filesIn_some]
        refine congrArg _ (List.filter_congr fun f hf => ?_)
        rw [Function.comp_apply, depth_below hf]
        simp
  | file content =>
    rw [filesAt, filesAt]
    split <;> simp [FoundFile.depth]
  | link target =>
    rw [filesAt, filesAt]
    split
    · rfl
    · split <;> simp [FoundFile.depth]
  | socket => simp [filesAt]

/-- The same for all entries of a directory, one below the other. -/
theorem filesIn_some (whole : FileTree) (levels : List IgnoreLevel) (place : List String)
    (depth : Nat) (entries : List (String × FileTree)) :
    filesIn whole levels place (some depth) entries =
      (filesIn whole levels place none entries).filter fun f => f.depth ≤ depth := by
  cases entries with
  | nil => simp [filesIn]
  | cons entry entries =>
    obtain ⟨name, t⟩ := entry
    rw [filesIn, filesIn, List.filter_append, filesAt_some, filesIn_some]

end

theorem walk_some (whole : FileTree) (place : List String) (depth : Nat) :
    whole.walk place (some depth) = (whole.walk place none).filter fun f => f.depth ≤ depth := by
  unfold walk
  split
  · exact filesIn_some _ _ _ _ _
  · rfl

end FileTree

namespace Source

/-- A file lies within a depth and has one of the extensions, or any if there are none. -/
def Within (depth : Nat) (extensions : List String) (f : FoundFile) : Prop :=
  f.depth ≤ depth ∧ (extensions = [] ∨ ∃ extension ∈ extensions, f.extension? = some extension)

instance (depth : Nat) (extensions : List String) : DecidablePred (Within depth extensions) :=
  fun _ => inferInstanceAs (Decidable (_ ∧ _))

theorem Within.mono {less depth : Nat} (h : less ≤ depth) {extensions : List String}
    {f : FoundFile} (hf : Within less extensions f) : Within depth extensions f :=
  ⟨Nat.le_trans hf.1 h, hf.2⟩

/-- Extensions choose among the files that are read without them. -/
theorem isWanted_eq (options : Options) (f : FoundFile) :
    isWanted options f = (isWanted {} f &&
      decide (options.extensions = [] ∨
        ∃ extension ∈ options.extensions, f.extension? = some extension)) := by
  unfold isWanted
  cases f.extension? with
  | none => rfl
  | some extension =>
    rw [Bool.eq_iff_iff]
    simp [List.isEmpty_iff]

/-- As long as a depth can be counted one further, it is how far the walk goes. -/
theorem files_eq_walk (whole : FileTree) (place : List String) {depth : Nat}
    (hdepth : depth + 1 < 2 ^ 64) (extensions : List String) :
    files whole place ⟨some depth, extensions⟩ =
      (whole.walk place (some depth)).filter (isWanted ⟨some depth, extensions⟩) := by
  have hcounted : some depth ≠ some 0xFFFFFFFFFFFFFFFF := by
    rw [ne_eq, Option.some.injEq]
    omega
  rw [files, if_neg hcounted]

theorem files_some (whole : FileTree) (place : List String) {depth : Nat}
    (hdepth : depth + 1 < 2 ^ 64) (extensions : List String) :
    files whole place ⟨some depth, extensions⟩ =
      (files whole place {}).filter fun f => Within depth extensions f := by
  have hall : files whole place {} = (whole.walk place none).filter (isWanted {}) := rfl
  rw [files_eq_walk whole place hdepth, hall, FileTree.walk_some, List.filter_filter,
    List.filter_filter]
  refine List.filter_congr fun f _ => ?_
  have hwithin : decide (Within depth extensions f) = (decide (f.depth ≤ depth) &&
      decide (extensions = [] ∨ ∃ extension ∈ extensions, f.extension? = some extension)) :=
    Bool.decide_and ..
  rw [isWanted_eq, hwithin]
  ac_rfl

end Source

namespace Load

/-- The files that are read when the path of a directory is loaded; none is listed if the path
leads to no directory. -/
def listed? (whole : FileTree) (path : String) (options : Source.Options) :
    Option (List FoundFile) :=
  match whole.resolve path with
  | .ok (place, .directory _) =>
    some (if isHyphen path then [] else Source.files whole place options)
  | _ => none

theorem source_of_listed? {whole : FileTree} {path : String} {options : Source.Options}
    {files : List FoundFile} (h : listed? whole path options = some files) :
    source whole path options = .ok (Source.tree files).close := by
  unfold listed? at h
  unfold source
  split at h
  · rename_i place entries hplace
    cases h
    rw [hplace]
  · cases h

theorem listed?_some {whole : FileTree} {path : String} {files : List FoundFile}
    (h : listed? whole path {} = some files) {depth : Nat} (hdepth : depth + 1 < 2 ^ 64)
    (extensions : List String) :
    listed? whole path ⟨some depth, extensions⟩ =
      some (files.filter fun f => Source.Within depth extensions f) := by
  unfold listed? at h ⊢
  split at h
  · rename_i place entries hplace
    cases h
    split
    · rfl
    · rw [Source.files_some whole place hdepth]
  · cases h

/-- A directory that is walked without options is walked with them. The files that are listed then,
and read, are those that lie within the depth and have one of the extensions, in the same order, and
a smaller depth adds none to them. -/
theorem options_restrict_walk {whole : FileTree} {path : String} {files : List FoundFile}
    (h : listed? whole path {} = some files) {depth : Nat} (hdepth : depth + 1 < 2 ^ 64)
    (extensions : List String) :
    listed? whole path ⟨some depth, extensions⟩ =
      some (files.filter fun f => Source.Within depth extensions f) ∧
    source whole path ⟨some depth, extensions⟩ =
      .ok (Source.tree (files.filter fun f => Source.Within depth extensions f)).close ∧
    ∀ less ≤ depth, ∃ fewer, listed? whole path ⟨some less, extensions⟩ = some fewer ∧
      fewer.Sublist (files.filter fun f => Source.Within depth extensions f) := by
  have hlisted := listed?_some h hdepth extensions
  refine ⟨hlisted, source_of_listed? hlisted, fun less hless => ?_⟩
  refine ⟨_, listed?_some h (by omega) extensions, ?_⟩
  refine List.monotone_filter_right files fun f hf => ?_
  exact decide_eq_true ((of_decide_eq_true hf).mono hless)

/-! ## A directory with a link and a hidden directory -/

def blankFile : FileContent := { bytes := .empty }

def atlasEntries : List (String × FileTree) :=
  [(".drafts", .directory [("cover.rs", .file blankFile)]),
    ("geo", .directory [
      ("again.rs", .link "../lib.rs"),
      ("deep", .directory [("line.rs", .file blankFile)]),
      ("point.ts", .file blankFile)]),
    ("lib.rs", .file blankFile)]

def atlas : FileTree := .directory atlasEntries

theorem listed?_atlas :
    listed? atlas "." {} = some [
      ⟨["geo", "again.rs"], blankFile⟩, ⟨["geo", "deep", "line.rs"], blankFile⟩,
      ⟨["geo", "point.ts"], blankFile⟩, ⟨["lib.rs"], blankFile⟩] := by
  have htop : IgnoreLevel.around atlas [] = [⟨0, [], [], [], false⟩] := by cbv
  have hgeo : IgnoreLevel.ofDirectory atlas ["geo"] = ⟨1, [], [], [], false⟩ := by cbv
  have hdeep : IgnoreLevel.ofDirectory atlas ["geo", "deep"] = ⟨2, [], [], [], false⟩ := by cbv
  have hlink : atlas.locate ["geo"] ["again.rs"] = .ok (["lib.rs"], .file blankFile) := rfl
  have hhidden : IgnoreLevel.isHidden ".drafts" = true := by decide
  have hshown : ∀ name ∈ ["geo", "again.rs", "deep", "line.rs", "point.ts", "lib.rs"],
      IgnoreLevel.isHidden name = false := by decide
  simp only [List.forall_mem_cons] at hshown
  have hwalk : listed? atlas "." {} = some ((FileTree.filesIn atlas (IgnoreLevel.around atlas [])
      [] none atlasEntries).filter (Source.isWanted {})) := rfl
  rw [hwalk, htop]
  simp [atlasEntries, FileTree.filesIn, FileTree.filesAt, FileTree.below?, hgeo, hdeep, hlink,
    IgnoreLevel.leavesOut_of_noRules, hhidden, hshown]
  decide

theorem atlas_options_restrict_walk :
    listed? atlas "." {} = some [
        ⟨["geo", "again.rs"], blankFile⟩, ⟨["geo", "deep", "line.rs"], blankFile⟩,
        ⟨["geo", "point.ts"], blankFile⟩, ⟨["lib.rs"], blankFile⟩] ∧
      1 + 1 < 2 ^ 64 ∧
      listed? atlas "." ⟨some 1, ["rs"]⟩ =
        some [⟨["geo", "again.rs"], blankFile⟩, ⟨["lib.rs"], blankFile⟩] ∧
      ∃ fewer, listed? atlas "." ⟨some 0, ["rs"]⟩ = some fewer ∧
        fewer.Sublist [⟨["geo", "again.rs"], blankFile⟩, ⟨["lib.rs"], blankFile⟩] := by
  have hdepth : 1 + 1 < 2 ^ 64 := by decide
  obtain ⟨hlisted, -, hless⟩ := options_restrict_walk listed?_atlas hdepth ["rs"]
  exact ⟨listed?_atlas, hdepth, hlisted, hless 0 (by decide)⟩

end Load

end DeclTree

import DeclTree.Proofs.Files.Reach
import Mathlib

/-!
# Walks that number levels

The walk that reads a directory numbers what it meets: its start is level 0, an entry is one level
below its directory, and a directory at the level of the limit is not listed. A limit of `d + 1`
reaches down `d` directories, and one of 0 leaves nothing but the start. A depth is counted one
further in 64 bits to make the limit, so the largest depth has a limit of 0.

What such a walk meets is taken one after another, and a directory that cannot be listed ends it
with an error. A limit takes away directories to list and adds none, so it makes no walk fail.
-/

namespace DeclTree

/-- What a walk meets, by its names below the start: a directory that it lists, or a file. -/
inductive Met where
  | listing (names : List String)
  | file (found : FoundFile)

namespace Met

def file? : Met → Option FoundFile
  | .listing _ => none
  | .file found => some found

/-- Takes the wanted files out of what is met, until a directory cannot be listed. -/
def take? (canList : List String → Bool) (wanted : FoundFile → Bool) :
    List Met → Option (List FoundFile)
  | [] => some []
  | .listing names :: rest => if canList names then take? canList wanted rest else none
  | .file found :: rest =>
    (take? canList wanted rest).map fun files => if wanted found then found :: files else files

theorem take?_eq_some_iff {canList : List String → Bool} {wanted : FoundFile → Bool}
    {met : List Met} {files : List FoundFile} :
    take? canList wanted met = some files ↔
      (∀ names, .listing names ∈ met → canList names = true) ∧
        (met.filterMap file?).filter wanted = files := by
  induction met generalizing files with
  | nil => simp [take?]
  | cons m met ih =>
    cases m with
    | listing names =>
      rw [take?]
      split
      · rename_i hlist
        simp [ih, hlist, file?, List.filterMap_cons]
      · rename_i hlist
        simp [hlist]
    | file found =>
      rw [take?, Option.map_eq_some_iff]
      simp only [ih, List.mem_cons, reduceCtorEq, false_or, file?, List.filterMap_cons,
        List.filter_cons]
      constructor
      · rintro ⟨rest, ⟨hlist, rfl⟩, rfl⟩
        exact ⟨hlist, rfl⟩
      · rintro ⟨hlist, rfl⟩
        exact ⟨_, ⟨hlist, rfl⟩, rfl⟩

end Met

/-- A file by its names from further up. -/
def FoundFile.under (front : List String) (f : FoundFile) : FoundFile :=
  { f with names := front ++ f.names }

namespace FileTree

/-- Whether a directory of a level is listed. -/
def isListed (limit : Option Nat) (level : Nat) : Bool :=
  limit.all fun last => decide (level < last)

theorem isListed_iff {limit : Option Nat} {level : Nat} :
    isListed limit level = true ↔ ∀ last ∈ limit, level + 1 ≤ last := by
  cases limit <;> simp [isListed]

mutual

/-- What is met at an entry of the directory that has the names `front` below the start. The level
of the entry is the number of its own names. -/
def metAt (whole : FileTree) (levels : List IgnoreLevel) (start front : List String)
    (limit : Option Nat) (name : String) : FileTree → List Met
  | .directory entries =>
    if IgnoreLevel.leavesOut levels (start ++ front) name true then []
    else if isListed limit (front.length + 1) then
      let inside := front ++ [name]
      .listing inside ::
        metIn whole (IgnoreLevel.ofDirectory whole (start ++ inside) :: levels) start inside limit
          entries
    else []
  | .file content =>
    if IgnoreLevel.leavesOut levels (start ++ front) name false then []
    else [.file ⟨front ++ [name], content⟩]
  | .link _ =>
    if IgnoreLevel.leavesOut levels (start ++ front) name false then []
    else
      match whole.locate (start ++ front) [name] with
      | .ok (_, .file content) => [.file ⟨front ++ [name], content⟩]
      | _ => []
  | .socket => []

def metIn (whole : FileTree) (levels : List IgnoreLevel) (start front : List String)
    (limit : Option Nat) : List (String × FileTree) → List Met
  | [] => []
  | (name, t) :: rest =>
    metAt whole levels start front limit name t ++ metIn whole levels start front limit rest

end

/-- What is met below the directory at a place, which is listed itself unless the limit is 0. -/
def met (whole : FileTree) (start : List String) (limit : Option Nat) : List Met :=
  match whole.get? start with
  | some (.directory entries) =>
    if isListed limit 0 then
      .listing [] :: metIn whole (IgnoreLevel.around whole start) start [] limit entries
    else []
  | _ => []

/-! ## Levels and reach -/

/-- How far a walk with a limit goes down from the directory of an entry of a level. -/
def reachAt (limit : Option Nat) (level : Nat) : Reach := limit.map (· - level)

theorem below?_reachAt {limit : Option Nat} {level : Nat} (h : ∀ last ∈ limit, level ≤ last) :
    below? (reachAt limit level) =
      if isListed limit level then some (reachAt limit (level + 1)) else none := by
  cases limit with
  | none => rfl
  | some last =>
    have hlevel := h last rfl
    obtain ⟨more, rfl⟩ := Nat.exists_eq_add_of_le hlevel
    cases more with
    | zero => simp [reachAt, isListed, below?]
    | succ more => simp [reachAt, isListed, below?, Nat.add_sub_add_left]

mutual

theorem filterMap_metAt (whole : FileTree) (levels : List IgnoreLevel)
    (start front : List String) {limit : Option Nat}
    (h : ∀ last ∈ limit, front.length + 1 ≤ last) (name : String) (t : FileTree) :
    (metAt whole levels start front limit name t).filterMap Met.file? =
      (filesAt whole levels (start ++ front) (reachAt limit (front.length + 1)) name t).map
        (FoundFile.under front) := by
  cases t with
  | directory entries =>
    rw [metAt, filesAt, below?_reachAt h]
    split
    · rfl
    · by_cases hlisted : isListed limit (front.length + 1) = true
      · have hinside : ∀ last ∈ limit, (front ++ [name]).length + 1 ≤ last := by
          rw [List.length_append]
          exact isListed_iff.mp hlisted
        rw [if_pos hlisted, if_pos hlisted]
        simp only [List.filterMap_cons, Met.file?]
        rw [filterMap_metIn whole _ start _ hinside entries, List.length_append, List.append_assoc,
          List.map_map]
        refine congrArg (List.map · _) (funext fun f => ?_)
        simp [FoundFile.under]
      · rw [if_neg hlisted, if_neg hlisted]
        rfl
  | file content =>
    rw [metAt, filesAt]
    split <;> simp [Met.file?, FoundFile.under]
  | link target =>
    rw [metAt, filesAt]
    split
    · rfl
    · generalize whole.locate (start ++ front) [name] = found
      rcases found with _ | ⟨_, t⟩
      · rfl
      · cases t <;> rfl
  | socket => simp [metAt, filesAt]

theorem filterMap_metIn (whole : FileTree) (levels : List IgnoreLevel)
    (start front : List String) {limit : Option Nat}
    (h : ∀ last ∈ limit, front.length + 1 ≤ last) (entries : List (String × FileTree)) :
    (metIn whole levels start front limit entries).filterMap Met.file? =
      (filesIn whole levels (start ++ front) (reachAt limit (front.length + 1)) entries).map
        (FoundFile.under front) := by
  cases entries with
  | nil => simp [metIn, filesIn]
  | cons entry entries =>
    obtain ⟨name, t⟩ := entry
    rw [metIn, filesIn, List.filterMap_append, List.map_append,
      filterMap_metAt whole levels start front h name t,
      filterMap_metIn whole levels start front h entries]

end

/-- A walk with a limit of `depth + 1` meets the files that lie within a reach of `depth`, and one
without a limit all of them. -/
theorem filterMap_met (whole : FileTree) (start : List String) (limit : Option Nat) :
    (whole.met start limit).filterMap Met.file? =
      if limit = some 0 then [] else whole.walk start (reachAt limit 1) := by
  unfold met walk
  cases whole.get? start with
  | none => simp
  | some t =>
    cases t with
    | directory entries =>
      dsimp only
      by_cases hlisted : isListed limit 0 = true
      · have hlimit : limit ≠ some 0 := by
          rintro rfl
          cases hlisted
        have hmet := filterMap_metIn whole (IgnoreLevel.around whole start) start []
          (isListed_iff.mp hlisted) entries
        have hunder : FoundFile.under [] = id := rfl
        rw [hunder, List.map_id, List.append_nil] at hmet
        rw [if_pos hlisted, if_neg hlimit, List.filterMap_cons_none rfl, hmet]
        rfl
      · have hlimit : limit = some 0 := by
          rw [isListed_iff] at hlisted
          cases limit with
          | none => simp at hlisted
          | some last => simpa using hlisted
        rw [if_neg hlisted, if_pos hlimit]
        rfl
    | _ => simp

/-! ## Limits -/

mutual

theorem metAt_sublist (whole : FileTree) (levels : List IgnoreLevel) (start front : List String)
    (limit : Option Nat) (name : String) (t : FileTree) :
    (metAt whole levels start front limit name t).Sublist
      (metAt whole levels start front none name t) := by
  cases t with
  | directory entries =>
    rw [metAt, metAt]
    split
    · exact .slnil
    · rw [if_pos (show isListed none _ = true from rfl)]
      split
      · exact (metIn_sublist whole _ start _ limit entries).cons_cons _
      · exact List.nil_sublist _
  | file content => rw [metAt, metAt]
  | link target => rw [metAt, metAt]
  | socket => rw [metAt, metAt]

theorem metIn_sublist (whole : FileTree) (levels : List IgnoreLevel) (start front : List String)
    (limit : Option Nat) (entries : List (String × FileTree)) :
    (metIn whole levels start front limit entries).Sublist
      (metIn whole levels start front none entries) := by
  cases entries with
  | nil => simp [metIn]
  | cons entry entries =>
    obtain ⟨name, t⟩ := entry
    rw [metIn, metIn]
    exact (metAt_sublist whole levels start front limit name t).append
      (metIn_sublist whole levels start front limit entries)

end

/-- A limit takes away some of what is met. -/
theorem met_sublist (whole : FileTree) (start : List String) (limit : Option Nat) :
    (whole.met start limit).Sublist (whole.met start none) := by
  unfold met
  split
  · rw [if_pos (show isListed none 0 = true from rfl)]
    split
    · exact (metIn_sublist whole _ start [] limit _).cons_cons _
    · exact List.nil_sublist _
  · exact List.Sublist.refl _

end FileTree

namespace Source

/-- The files of a directory are those that the walk with the limit of the options meets. -/
theorem files_eq_met (whole : FileTree) (place : List String) (options : Options)
    (h : ∀ depth ∈ options.depth, depth < 2 ^ 64) :
    files whole place options =
      ((whole.met place (options.depth.map fun depth => (depth + 1) % 2 ^ 64)).filterMap
        Met.file?).filter (isWanted options) := by
  rw [FileTree.filterMap_met]
  obtain ⟨depth, extensions⟩ := options
  cases depth with
  | none => rfl
  | some depth =>
    by_cases hlast : depth + 1 = 2 ^ 64
    · obtain rfl : depth = 0xFFFFFFFFFFFFFFFF := by omega
      rfl
    · have hdepth : depth + 1 < 2 ^ 64 := by
        have hbound := h depth rfl
        omega
      rw [files_eq_walk whole place hdepth, Option.map_some, Nat.mod_eq_of_lt hdepth,
        if_neg (by simp)]
      rfl

/-- Where some directories cannot be listed, a walk that succeeds without options succeeds with
them, and finds what lies within them. -/
theorem take?_options {canList : List String → Bool} {whole : FileTree} {place : List String}
    {found : List FoundFile}
    (h : Met.take? canList (isWanted {}) (whole.met place none) = some found) {depth : Nat}
    (hdepth : depth + 1 < 2 ^ 64) (extensions : List String) :
    Met.take? canList (isWanted ⟨some depth, extensions⟩) (whole.met place (some (depth + 1))) =
      some (found.filter fun f => Within depth extensions f) := by
  obtain ⟨hlist, hfound⟩ := Met.take?_eq_some_iff.mp h
  refine Met.take?_eq_some_iff.mpr ⟨fun names hnames => ?_, ?_⟩
  · exact hlist names ((whole.met_sublist place (some (depth + 1))).subset hnames)
  · have hall : files whole place {} = found :=
      (files_eq_met whole place {} (by simp)).trans hfound
    have hsome : ∀ d ∈ some depth, d < 2 ^ 64 := by
      rintro d ⟨rfl⟩
      omega
    have hlimited := files_eq_met whole place ⟨some depth, extensions⟩ hsome
    rw [Option.map_some, Nat.mod_eq_of_lt hdepth] at hlimited
    rw [← hlimited, files_some whole place hdepth, hall]

end Source

end DeclTree

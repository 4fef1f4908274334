import DeclTree.Files.Tree

/-!
# File trees in order

A directory lists its entries in the order of their names, and no name twice. An entry that is put
into a tree goes to its place in that order, so a tree that is made by putting entries into an empty
one is in order throughout; `OrderedTree` is such a tree with the proof that it is.
-/

namespace DeclTree

namespace FileTree

/-- In every directory the names of the entries go up. -/
inductive Ordered : FileTree → Prop
  | file (content : FileContent) : Ordered (.file content)
  | directory {entries : List (String × FileTree)}
      (names : (entries.map Prod.fst).Pairwise (· < ·))
      (inside : ∀ e ∈ entries, Ordered e.2) : Ordered (.directory entries)
  | link (target : String) : Ordered (.link target)
  | socket : Ordered .socket

variable {t new : FileTree} {name : String} {change : Option FileTree → FileTree}
  {entries : List (String × FileTree)}

theorem Ordered.empty : Ordered .empty := .directory .nil fun _ he => nomatch he

theorem Ordered.pairwise_entries (h : t.Ordered) : (t.entries.map Prod.fst).Pairwise (· < ·) := by
  cases h with
  | directory names inside => exact names
  | _ => exact .nil

theorem Ordered.of_mem_entries (h : t.Ordered) {e : String × FileTree} (he : e ∈ t.entries) :
    e.2.Ordered := by
  cases h with
  | directory names inside => exact inside e he
  | _ => cases he

/-! ## Putting in entries -/

theorem mem_names_putEntry {n : String} :
    n ∈ (putEntry name change entries).map Prod.fst ↔ n = name ∨ n ∈ entries.map Prod.fst := by
  induction entries with
  | nil => simp [putEntry]
  | cons e entries ih =>
    obtain ⟨m, t⟩ := e
    rw [putEntry]
    split
    · rename_i hname
      simp [hname]
    · split
      · simp
      · rw [List.map_cons, List.mem_cons, ih, List.map_cons, List.mem_cons, or_left_comm]

theorem pairwise_putEntry (h : (entries.map Prod.fst).Pairwise (· < ·)) :
    ((putEntry name change entries).map Prod.fst).Pairwise (· < ·) := by
  induction entries with
  | nil => exact .cons (fun _ hn => nomatch hn) .nil
  | cons e entries ih =>
    obtain ⟨m, t⟩ := e
    obtain ⟨hfirst, hrest⟩ := List.pairwise_cons.mp h
    rw [putEntry]
    split
    · exact h
    · rename_i hne
      split
      · rename_i hlt
        refine .cons (fun n hn => ?_) h
        rcases List.mem_cons.mp hn with rfl | hn
        · exact hlt
        · exact String.lt_trans hlt (hfirst n hn)
      · rename_i hnotlt
        have hgt : m < name := by
          rcases Std.lt_trichotomy name m with hlt | heq | hgt
          · exact absurd hlt hnotlt
          · exact absurd heq hne
          · exact hgt
        refine .cons (fun n hn => ?_) (ih hrest)
        rcases mem_names_putEntry.mp hn with rfl | hn
        · exact hgt
        · exact hfirst n hn

theorem ordered_of_mem_putEntry (h : ∀ e ∈ entries, e.2.Ordered)
    (hchange : ∀ old : Option FileTree, (∀ t ∈ old, t.Ordered) → (change old).Ordered) :
    ∀ e ∈ putEntry name change entries, e.2.Ordered := by
  have hnew : (change none).Ordered := hchange none fun _ ht => nomatch ht
  induction entries with
  | nil =>
    intro e he
    obtain rfl := List.mem_singleton.mp he
    exact hnew
  | cons e entries ih =>
    obtain ⟨m, t⟩ := e
    obtain ⟨ht, hrest⟩ := List.forall_mem_cons.mp h
    rw [putEntry]
    split
    · refine List.forall_mem_cons.mpr ⟨hchange (some t) fun u hu => ?_, hrest⟩
      cases hu
      exact ht
    · split
      · exact List.forall_mem_cons.mpr ⟨hnew, h⟩
      · exact List.forall_mem_cons.mpr ⟨ht, ih hrest⟩

theorem Ordered.putEntry (h : t.Ordered)
    (hchange : ∀ old : Option FileTree, (∀ t ∈ old, t.Ordered) → (change old).Ordered) :
    Ordered (.directory (FileTree.putEntry name change t.entries)) :=
  .directory (pairwise_putEntry h.pairwise_entries)
    (ordered_of_mem_putEntry (fun _ he => h.of_mem_entries he) hchange)

theorem Ordered.replace (hnew : new.Ordered) {old : Option FileTree} (h : ∀ t ∈ old, t.Ordered) :
    (replace new old).Ordered := by
  unfold FileTree.replace
  split
  · split
    · exact h _ rfl
    · exact hnew
  · exact hnew

theorem Ordered.put (hnew : new.Ordered) {names : List String} {old : FileTree}
    (h : old.Ordered) : (put new names old).Ordered := by
  induction names generalizing old with
  | nil =>
    refine hnew.replace fun t ht => ?_
    cases ht
    exact h
  | cons name names ih =>
    cases names with
    | nil => exact h.putEntry fun old hold => hnew.replace hold
    | cons next names =>
      refine h.putEntry fun old hold => ih ?_
      cases old with
      | none => exact .empty
      | some t => exact hold t rfl

end FileTree

/-- A file tree with its directories in order. -/
structure OrderedTree where
  tree : FileTree
  ordered : tree.Ordered

namespace OrderedTree

def empty : OrderedTree := ⟨.empty, .empty⟩

def put (new : OrderedTree) (names : List String) (old : OrderedTree) : OrderedTree :=
  ⟨.put new.tree names old.tree, new.ordered.put old.ordered⟩

end OrderedTree

end DeclTree

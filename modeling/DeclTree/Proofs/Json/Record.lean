import DeclTree.Proofs.Json.Nesting

/-!
# Records as JSON objects

A record is written as an object that has a member for each field with a value. Reading the object
as a record gives every field back, as long as no two fields share a name.
-/

namespace DeclTree.Json

/-- The members for the fields that have a value. -/
def present : List (String × Option Json) → List (String × Json)
  | [] => []
  | (name, value) :: slots => (value.map fun v => (name, v)).toList ++ present slots

theorem mem_present {slots : List (String × Option Json)} {m : String × Json}
    (h : m ∈ present slots) : (m.1, some m.2) ∈ slots := by
  induction slots with
  | nil => simp [present] at h
  | cons slot slots ih =>
    obtain ⟨name, value⟩ := slot
    rcases List.mem_append.mp h with h | h
    · obtain ⟨v, rfl, rfl⟩ := Option.map_eq_some_iff.mp (Option.mem_toList.mp h)
      simp
    · exact List.mem_cons_of_mem _ (ih h)

theorem valuesOf_present_cons (name key : String) (value : Option Json)
    (slots : List (String × Option Json)) :
    valuesOf name ((present ((key, value) :: slots)).map fun m => (some m.1, m.2)) =
      (if key = name then value.toList else []) ++
        valuesOf name ((present slots).map fun m => (some m.1, m.2)) := by
  rw [present, List.map_append, valuesOf, List.filterMap_append, ← valuesOf, ← valuesOf]
  congr 1
  cases value with
  | none => simp [valuesOf]
  | some v => by_cases h : key = name <;> simp [valuesOf, h]

theorem valuesOf_present_of_notMem {name : String} {slots : List (String × Option Json)}
    (h : name ∉ slots.map Prod.fst) :
    valuesOf name ((present slots).map fun m => (some m.1, m.2)) = [] := by
  induction slots with
  | nil => rfl
  | cons slot slots ih =>
    obtain ⟨key, value⟩ := slot
    rw [List.map_cons, List.mem_cons, not_or] at h
    rw [valuesOf_present_cons, if_neg (Ne.symm h.1), ih h.2, List.nil_append]

theorem valuesOf_present {slots : List (String × Option Json)} (h : (slots.map Prod.fst).Nodup)
    {slot : String × Option Json} (hslot : slot ∈ slots) :
    valuesOf slot.1 ((present slots).map fun m => (some m.1, m.2)) = slot.2.toList := by
  induction slots with
  | nil => simp at hslot
  | cons first slots ih =>
    obtain ⟨key, value⟩ := first
    rw [List.map_cons, List.nodup_cons] at h
    rw [valuesOf_present_cons]
    rcases List.mem_cons.mp hslot with rfl | hmem
    · rw [if_pos rfl, valuesOf_present_of_notMem h.1, List.append_nil]
    · have hne : key ≠ slot.1 := by
        rintro rfl
        exact h.1 (List.mem_map.mpr ⟨slot, hmem, rfl⟩)
      rw [if_neg hne, ih h.2 hmem, List.nil_append]

theorem record_present {slots : List (String × Option Json)} (h : (slots.map Prod.fst).Nodup) :
    record (slots.map Prod.fst) (.fields (present slots)) = some (slots.map Prod.snd) := by
  have hvalues : ∀ slot ∈ slots,
      valuesOf slot.1 ((present slots).map fun m => (some m.1, m.2)) = slot.2.toList :=
    fun slot hslot => valuesOf_present h hslot
  rw [fields, record, if_pos]
  · rw [List.map_map]
    congr 1
    refine List.map_congr_left fun slot hslot => ?_
    simp [hvalues slot hslot]
  · rw [Bool.and_eq_true]
    constructor
    · simp
    · rw [List.all_map, List.all_eq_true]
      intro slot hslot
      simp [hvalues slot hslot]

theorem nestingMembers_present (slots : List (String × Option Json)) :
    nestingMembers ((present slots).map fun m => (some m.1, m.2)) =
      (slots.map fun slot => slot.2.elim 0 nesting).foldr max 0 := by
  induction slots with
  | nil => rfl
  | cons slot slots ih =>
    obtain ⟨name, value⟩ := slot
    cases value with
    | none => simpa [present] using ih
    | some v => simp [present, nestingMembers, ih]

theorem writable_present {slots : List (String × Option Json)}
    (h : ∀ slot ∈ slots, ∀ value, slot.2 = some value → Writable value) :
    Writable (.fields (present slots)) :=
  .fields fun m hm => h _ (mem_present hm) m.2 rfl

end DeclTree.Json

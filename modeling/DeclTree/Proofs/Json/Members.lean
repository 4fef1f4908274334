import DeclTree.Json.Value
import DeclTree.Proofs.Lists

/-!
# Members that a record knows

A record is read from an object by the members that have a name of its fields, and from an array by
the places of its items. The order of the members does not matter, and neither does a member of
another name; a field that stands twice makes the object unreadable. A value at the place of a field
is handed on as it is, and nothing else of the record depends on it.
-/

namespace DeclTree.Json

variable {names : List String} {front back : List (Option String × Json)} {name : String}

theorem valuesOf_append (key : String) (front back : List (Option String × Json)) :
    valuesOf key (front ++ back) = valuesOf key front ++ valuesOf key back :=
  List.filterMap_append

theorem valuesOf_cons (key name : String) (value : Json) (members : List (Option String × Json)) :
    valuesOf key ((some name, value) :: members) =
      (if name = key then [value] else []) ++ valuesOf key members := by
  by_cases h : name = key <;> simp [valuesOf, h]

/-- What an object must satisfy to be read as a record. -/
def KnownOnce (names : List String) (members : List (Option String × Json)) : Prop :=
  (∀ m ∈ members, m.1.isSome = true) ∧ ∀ key ∈ names, (valuesOf key members).length ≤ 1

theorem KnownOnce.record_eq {members : List (Option String × Json)} (h : KnownOnce names members) :
    record names (.object members) =
      some (names.map fun key => (valuesOf key members).head?) := by
  rw [record, if_pos]
  simpa [KnownOnce] using h

theorem record_eq_none {members : List (Option String × Json)} (h : ¬ KnownOnce names members) :
    record names (.object members) = none := by
  rw [record, if_neg]
  simpa [KnownOnce] using h

theorem record_congr {members others : List (Option String × Json)}
    (hknown : KnownOnce names members ↔ KnownOnce names others)
    (hheads : KnownOnce names members → ∀ key ∈ names,
      (valuesOf key members).head? = (valuesOf key others).head?) :
    record names (.object members) = record names (.object others) := by
  by_cases hread : KnownOnce names members
  · rw [hread.record_eq, (hknown.mp hread).record_eq]
    exact congrArg some (List.map_congr_left (hheads hread))
  · rw [record_eq_none hread, record_eq_none (mt hknown.mpr hread)]

/-- The order of the members does not matter. -/
theorem record_perm {members others : List (Option String × Json)} (h : members.Perm others) :
    record names (.object members) = record names (.object others) := by
  have hvalues : ∀ key, (valuesOf key members).Perm (valuesOf key others) :=
    fun key => h.filterMap _
  refine record_congr ?_ fun hread key hkey => ?_
  · simp only [KnownOnce, h.mem_iff, (hvalues _).length_eq]
  · exact head?_eq_of_perm (hvalues key) (hread.2 key hkey)

/-- A member that the record does not know is ignored, whatever its value is. -/
theorem record_insert (hname : name ∉ names) (value : Json) :
    record names (.object (front ++ (some name, value) :: back)) =
      record names (.object (front ++ back)) := by
  have hvalues : ∀ key ∈ names,
      valuesOf key (front ++ (some name, value) :: back) = valuesOf key (front ++ back) := by
    intro key hkey
    have hne : name ≠ key := fun heq => hname (heq ▸ hkey)
    rw [valuesOf_append, valuesOf_append, valuesOf_cons, if_neg hne, List.nil_append]
  refine record_congr (and_congr ?_ ?_) fun _ key hkey => by rw [hvalues key hkey]
  · simp [or_imp, forall_and]
  · exact forall₂_congr fun key hkey => by rw [hvalues key hkey]

/-- A record that has a field twice is not read. -/
theorem record_repeated (hname : name ∈ names) (first second : Json)
    (middle : List (Option String × Json)) :
    record names (.object (front ++ (some name, first) :: (middle ++ (some name, second) :: back)))
      = none := by
  refine record_eq_none ?_
  rintro ⟨-, hone⟩
  have hlength := hone name hname
  simp only [valuesOf_append, valuesOf_cons, if_true, List.length_append, List.length_singleton]
    at hlength
  omega

/-- All values of a family are records with the same fields, apart from the one with a name, which
holds what the family is applied to. -/
def FieldsBut (names : List String) (name : String) (others : String → Option Json)
    (family : Json → Json) : Prop :=
  ∀ value, record names (family value) =
    some (names.map fun key => if key = name then some value else others key)

/-- In a family of values, the field with a name is the only one that differs. -/
def Focus (names : List String) (name : String) (family : Json → Json) : Prop :=
  (∀ value, record names (family value) = none) ∨ ∃ others, FieldsBut names name others family

theorem focus_object (hname : name ∈ names) :
    Focus names name fun value => .object (front ++ (some name, value) :: back) := by
  have hknown : ∀ value other, KnownOnce names (front ++ (some name, value) :: back) →
      KnownOnce names (front ++ (some name, other) :: back) := by
    rintro value other ⟨hnamed, hone⟩
    refine ⟨?_, fun key hkey => ?_⟩
    · simpa [or_imp, forall_and] using hnamed
    · have hlength := hone key hkey
      simp only [valuesOf_append, valuesOf_cons, List.length_append] at hlength ⊢
      split at hlength <;> simpa [*] using hlength
  by_cases hread : KnownOnce names (front ++ (some name, Json.null) :: back)
  · refine .inr ⟨fun key => (valuesOf key (front ++ back)).head?, fun value => ?_⟩
    rw [(hknown _ value hread).record_eq]
    refine congrArg some (List.map_congr_left fun key hkey => ?_)
    rw [valuesOf_append, valuesOf_cons]
    by_cases hkey : key = name
    · have hlength := hread.2 name hname
      simp only [valuesOf_append, valuesOf_cons, if_true, List.length_append,
        List.length_singleton] at hlength
      have hfront : valuesOf name front = [] := List.eq_nil_of_length_eq_zero (by omega)
      simp [hkey, hfront]
    · simp [hkey, Ne.symm hkey, valuesOf_append]
  · exact .inl fun value => record_eq_none fun h => hread (hknown value _ h)

/-- An array holds the fields in the order of their names. -/
theorem record_array (hnodup : names.Nodup) {items : List Json}
    (hfits : items.length ≤ names.length) :
    record names (.array items) = some (names.map fun key => items[names.idxOf key]?) := by
  rw [record, if_pos hfits]
  refine congrArg some (List.ext_getElem ?_ fun i hi hi' => ?_)
  · simp [Nat.add_sub_cancel' hfits]
  · rw [List.getElem_map, hnodup.idxOf_getElem]
    by_cases hitem : i < items.length
    · simp [hitem]
    · simp [List.getElem_append, hitem]

theorem focus_array {front back : List Json} (hnodup : names.Nodup)
    (hname : names[front.length]? = some name) :
    Focus names name fun value => .array (front ++ value :: back) := by
  obtain ⟨hlt, rfl⟩ := List.getElem?_eq_some_iff.mp hname
  by_cases hfits : (front ++ Json.null :: back).length ≤ names.length
  · refine .inr ⟨fun key => (front ++ Json.null :: back)[names.idxOf key]?, fun value => ?_⟩
    rw [record_array hnodup (by simpa using hfits)]
    refine congrArg some (List.map_congr_left fun key hkey => ?_)
    by_cases hsame : key = names[front.length]
    · rw [if_pos hsame, hsame, hnodup.idxOf_getElem, List.getElem?_append_right (Nat.le_refl _)]
      simp
    · have hplace : names.idxOf key ≠ front.length := by
        intro heq
        have hget := List.getElem_idxOf (List.idxOf_lt_length_iff.mpr hkey)
        simp only [heq] at hget
        exact hsame hget.symm
      simp only [if_neg hsame, List.getElem?_append]
      split
      · rfl
      · rw [List.getElem?_cons, List.getElem?_cons, if_neg (by omega), if_neg (by omega)]
  · refine .inl fun value => ?_
    rw [record, if_neg]
    simpa using hfits

end DeclTree.Json

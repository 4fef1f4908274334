import Mathlib.Data.Finset.Card
import Mathlib.Data.Finset.Dedup
import Mathlib.Data.List.Forall2

/-!
# Lists

What is used of lists in general: lists with the same members, lists related item by item, distinct
items, and the digits of a number.
-/

namespace DeclTree

variable {α β γ : Type}

/-! ## Lists with the same members -/

section SameMembers

variable {xs ys : List α}

theorem isEmpty_eq_of_mem_iff (h : ∀ x, x ∈ xs ↔ x ∈ ys) : xs.isEmpty = ys.isEmpty := by
  rw [Bool.eq_iff_iff, List.isEmpty_iff, List.isEmpty_iff, List.eq_nil_iff_forall_not_mem,
    List.eq_nil_iff_forall_not_mem]
  simp only [h]

theorem any_eq_of_mem_iff (h : ∀ x, x ∈ xs ↔ x ∈ ys) (p : α → Bool) : xs.any p = ys.any p := by
  rw [Bool.eq_iff_iff, List.any_eq_true, List.any_eq_true]
  simp only [h]

theorem all_eq_of_mem_iff (h : ∀ x, x ∈ xs ↔ x ∈ ys) (p : α → Bool) : xs.all p = ys.all p := by
  rw [Bool.eq_iff_iff, List.all_eq_true, List.all_eq_true]
  simp only [h]

theorem contains_eq_of_mem_iff [BEq α] [LawfulBEq α] (h : ∀ x, x ∈ xs ↔ x ∈ ys) (x : α) :
    xs.contains x = ys.contains x := by
  rw [Bool.eq_iff_iff, List.contains_iff_mem, List.contains_iff_mem, h]

end SameMembers

theorem head?_eq_of_perm {xs ys : List α} (h : xs.Perm ys) (hone : xs.length ≤ 1) :
    xs.head? = ys.head? := by
  match xs, hone with
  | [], _ => rw [List.nil_perm.mp h]
  | [x], _ => rw [List.singleton_perm.mp h]

/-! ## Lists related item by item -/

theorem exists_mem_of_forall₂ {R : α → β → Prop} {as : List α} {bs : List β}
    (h : List.Forall₂ R as bs) {b : β} (hb : b ∈ bs) : ∃ a ∈ as, R a b := by
  induction h with
  | nil => cases hb
  | cons hab _ ih =>
    rcases List.mem_cons.mp hb with rfl | hb
    · exact ⟨_, List.mem_cons_self, hab⟩
    · obtain ⟨a, ha, hR⟩ := ih hb
      exact ⟨a, List.mem_cons_of_mem _ ha, hR⟩

theorem forall₂_flatMap {R : β → γ → Prop} {f : α → List β} {g : α → List γ} {as : List α}
    (h : ∀ a ∈ as, List.Forall₂ R (f a) (g a)) :
    List.Forall₂ R (as.flatMap f) (as.flatMap g) := by
  induction as with
  | nil => exact .nil
  | cons a as ih =>
    obtain ⟨ha, has⟩ := List.forall_mem_cons.mp h
    exact List.rel_append ha (ih has)

theorem forall₂_filterMap {f : α → Option β} {as : List α} (h : ∀ a ∈ as, (f a).isSome = true) :
    List.Forall₂ (fun a b => f a = some b) as (as.filterMap f) := by
  induction as with
  | nil => exact .nil
  | cons a as ih =>
    obtain ⟨b, hb⟩ := Option.isSome_iff_exists.mp (h a List.mem_cons_self)
    rw [List.filterMap_cons_some hb]
    exact .cons hb (ih fun c hc => h c (List.mem_cons_of_mem a hc))

theorem map_eq_map_of_forall₂ {f : α → γ} {g : β → γ} {as : List α} {bs : List β}
    (h : List.Forall₂ (fun a b => f a = g b) as bs) : as.map f = bs.map g := by
  rw [← List.forall₂_eq_eq_eq, List.forall₂_map_left_iff, List.forall₂_map_right_iff]
  exact h

/-! ## Distinct items -/

section Distinct

variable [DecidableEq α]

theorem eraseDups_eq_singleton {as : List α} {a : α} :
    as.eraseDups = [a] ↔ a ∈ as ∧ ∀ b ∈ as, b = a := by
  constructor
  · intro h
    have hmem : ∀ b, b ∈ as ↔ b = a := by
      intro b
      rw [← List.mem_eraseDups, h, List.mem_singleton]
    exact ⟨(hmem a).mpr rfl, fun b => (hmem b).mp⟩
  · rintro ⟨hmem, hall⟩
    obtain ⟨b, rest, rfl⟩ := List.exists_cons_of_ne_nil (List.ne_nil_of_mem hmem)
    obtain rfl := hall b (by simp)
    have hrest : rest.filter (fun c => !c == b) = [] := by
      rw [List.filter_eq_nil_iff]
      intro c hc
      simp [hall c (by simp [hc])]
    rw [List.eraseDups_cons, hrest, List.eraseDups_nil]

theorem card_toFinset_le (as : List α) : as.toFinset.card ≤ as.eraseDups.length := by
  have hsame : as.toFinset = as.eraseDups.toFinset := by
    ext a
    simp [List.mem_eraseDups]
  rw [hsame]
  exact List.toFinset_card_le as.eraseDups

/-- Meeting new items of a set leaves as many fewer of it to be met. -/
theorem card_sdiff_append (all : Finset α) {seen new : List α} (hnodup : new.Nodup)
    (hall : ∀ a ∈ new, a ∈ all) (hnew : ∀ a ∈ new, a ∉ seen) :
    (all \ (seen ++ new).toFinset).card + new.length = (all \ seen.toFinset).card := by
  have hsub : new.toFinset ⊆ all \ seen.toFinset := by
    intro a ha
    rw [List.mem_toFinset] at ha
    rw [Finset.mem_sdiff, List.mem_toFinset]
    exact ⟨hall a ha, hnew a ha⟩
  rw [← List.toFinset_card_of_nodup hnodup, List.toFinset_append, ← Finset.sup_eq_union,
    ← sdiff_sdiff_left]
  exact Finset.card_sdiff_add_card_eq_card hsub

end Distinct

/-! ## Digits -/

/-- Only the digits of zero start with a zero. -/
theorem head_toDigits_ne_zero {n : Nat} (h : 0 < n) : (Nat.toDigits 10 n).head? ≠ some '0' := by
  induction n using Nat.strongRecOn with
  | _ n ih =>
    by_cases hlt : n < 10
    · rw [Nat.toDigits_of_lt_base hlt, List.head?_cons, Ne, Option.some.injEq]
      intro hzero
      have hdigit := Nat.toNat_digitChar_of_lt_ten hlt
      rw [hzero, show '0'.toNat = 48 from rfl] at hdigit
      omega
    · have hfront := ih (n / 10) (by omega) (by omega)
      rw [Nat.toDigits_of_base_le (by omega) (by omega),
        List.head?_append_of_ne_nil _ Nat.toDigits_ne_nil]
      exact hfront

end DeclTree

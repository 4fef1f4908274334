/-!
# Changing one element of a list

The first or the last element that passes a test is changed, and all others stay.
-/

namespace DeclTree

def changeFirst? {α : Type} (test : α → Bool) (change : α → α) : List α → Option (List α)
  | [] => none
  | a :: as =>
    if test a then some (change a :: as) else (changeFirst? test change as).map (a :: ·)

/-- Changes the first element that passes a test; the list stays as it is if none does. -/
def changeFirst {α : Type} (test : α → Bool) (change : α → α) (as : List α) : List α :=
  (changeFirst? test change as).getD as

/-- Changes the last element that passes a test; the list stays as it is if none does. -/
def changeLast {α : Type} (test : α → Bool) (change : α → α) (as : List α) : List α :=
  (changeFirst test change as.reverse).reverse

theorem changeFirst?_eq_none_iff {α : Type} {test : α → Bool} {change : α → α} {as : List α} :
    changeFirst? test change as = none ↔ ∀ a ∈ as, test a = false := by
  induction as with
  | nil => simp [changeFirst?]
  | cons a as ih => by_cases h : test a = true <;> simp [changeFirst?, h, ih]

/-- The change happens at the first element that passes the test. -/
theorem changeFirst?_append {α : Type} {test : α → Bool} {change : α → α} {front : List α} {a : α}
    (rest : List α) (hfront : ∀ b ∈ front, test b = false) (ha : test a = true) :
    changeFirst? test change (front ++ a :: rest) = some (front ++ change a :: rest) := by
  induction front with
  | nil => simp [changeFirst?, ha]
  | cons b front ih =>
    have hb := hfront b (by simp)
    simp [changeFirst?, hb, ih fun c hc => hfront c (by simp [hc])]

theorem changeFirst_cons {α : Type} (test : α → Bool) (change : α → α) (a : α) (as : List α) :
    changeFirst test change (a :: as) =
      if test a then change a :: as else a :: changeFirst test change as := by
  unfold changeFirst
  rw [changeFirst?]
  split
  · rfl
  · cases changeFirst? test change as <;> rfl

/-- With no two elements that pass a test, changing the first one is changing all that do. -/
theorem changeFirst_eq_map {α : Type} {test : α → Bool} {change : α → α} {as : List α}
    (h : as.Pairwise fun a b => test a = true → test b = false) :
    changeFirst test change as = as.map fun a => if test a then change a else a := by
  induction as with
  | nil => rfl
  | cons a as ih =>
    obtain ⟨hfirst, hrest⟩ := List.pairwise_cons.mp h
    rw [changeFirst_cons, List.map_cons]
    by_cases ha : test a = true
    · have hsame : (as.map fun b => if test b then change b else b) = as := by
        rw [List.map_congr_left (g := id) fun b hb => by simp [hfirst b hb ha], List.map_id]
      rw [if_pos ha, if_pos ha, hsame]
    · rw [if_neg ha, if_neg ha, ih hrest]

theorem changeFirst_append {α : Type} (test : α → Bool) (change : α → α) (as bs : List α) :
    changeFirst test change (as ++ bs) =
      if as.any test then changeFirst test change as ++ bs
      else as ++ changeFirst test change bs := by
  induction as with
  | nil => rfl
  | cons a as ih =>
    rw [List.cons_append, changeFirst_cons, changeFirst_cons, ih]
    by_cases ha : test a = true <;> by_cases has : as.any test = true <;> simp [ha, has]

/-- The first element of a list is changed only if none behind it passes the test. -/
theorem changeLast_cons {α : Type} (test : α → Bool) (change : α → α) (a : α) (as : List α) :
    changeLast test change (a :: as) =
      if as.any test then a :: changeLast test change as
      else (if test a then change a else a) :: as := by
  rw [changeLast, List.reverse_cons, changeFirst_append, List.any_reverse]
  split
  · simp [changeLast]
  · by_cases ha : test a = true <;> simp [changeFirst, changeFirst?, ha]

end DeclTree

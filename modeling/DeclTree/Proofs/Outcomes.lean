import DeclTree.Proofs.Lists

/-!
# Outcomes

What is used in general of steps that may fail, with an error or without one: two steps in a row,
one step for every item of a list, and the decoding of a text.
-/

namespace DeclTree

variable {ε α β : Type} {xs ys : List α}

theorem bind_eq_ok {x : Except ε α} {f : α → Except ε β} {b : β} :
    (x >>= f) = .ok b ↔ ∃ a, x = .ok a ∧ f a = .ok b := by
  cases x <;> simp [bind, Except.bind]

theorem map_eq_ok {x : Except ε α} {f : α → β} {b : β} :
    x.map f = .ok b ↔ ∃ a, x = .ok a ∧ f a = b := by
  cases x <;> simp [Except.map]

theorem exists_mapM_eq_ok_iff {f : α → Except ε β} :
    (∃ bs, xs.mapM f = .ok bs) ↔ ∀ x ∈ xs, ∃ b, f x = .ok b := by
  induction xs with
  | nil => simp [pure, Except.pure]
  | cons x xs ih =>
    rw [List.forall_mem_cons, ← ih]
    simp only [List.mapM_cons, bind_eq_ok]
    constructor
    · rintro ⟨_, b, hb, bs, hbs, -⟩
      exact ⟨⟨b, hb⟩, bs, hbs⟩
    · rintro ⟨⟨b, hb⟩, bs, hbs⟩
      exact ⟨b :: bs, b, hb, bs, hbs, rfl⟩

theorem mem_of_mapM_eq_ok {f : α → Except ε β} {bs : List β} (h : xs.mapM f = .ok bs) (b : β) :
    b ∈ bs ↔ ∃ x ∈ xs, f x = .ok b := by
  induction xs generalizing bs with
  | nil =>
    cases h
    simp
  | cons x xs ih =>
    simp only [List.mapM_cons, bind_eq_ok] at h
    obtain ⟨c, hc, cs, hcs, hbs⟩ := h
    cases hbs
    rw [List.mem_cons, ih hcs, List.exists_mem_cons_iff, hc, Except.ok.injEq, eq_comm]

/-- Lists with the same members are read alike: both to the end or neither, and to the same
members. -/
theorem mapM_of_mem_iff {f : α → Except ε β} (h : ∀ x, x ∈ xs ↔ x ∈ ys) {bs : List β}
    (hbs : xs.mapM f = .ok bs) : ∃ cs, ys.mapM f = .ok cs ∧ ∀ b, b ∈ bs ↔ b ∈ cs := by
  have hread : ∃ cs, ys.mapM f = .ok cs := by
    rw [exists_mapM_eq_ok_iff]
    intro y hy
    exact exists_mapM_eq_ok_iff.mp ⟨bs, hbs⟩ y ((h y).mpr hy)
  obtain ⟨cs, hcs⟩ := hread
  refine ⟨cs, hcs, ?_⟩
  intro b
  rw [mem_of_mapM_eq_ok hbs, mem_of_mapM_eq_ok hcs]
  simp only [h]

theorem forall₂_of_mapM_eq_some {f : α → Option β} {bs : List β} (h : xs.mapM f = some bs) :
    List.Forall₂ (fun x b => f x = some b) xs bs := by
  induction xs generalizing bs with
  | nil =>
    cases h
    exact .nil
  | cons x xs ih =>
    simp only [List.mapM_cons, Option.bind_eq_bind, Option.bind_eq_some_iff, Option.pure_def,
      Option.some.injEq] at h
    obtain ⟨b, hb, cs, hcs, rfl⟩ := h
    exact .cons hb (ih hcs)

/-- What a list was read to comes from its items. -/
theorem exists_of_mapM_eq_some {f : α → Option β} {bs : List β} (h : xs.mapM f = some bs) {b : β}
    (hb : b ∈ bs) : ∃ x ∈ xs, f x = some b :=
  exists_mem_of_forall₂ (forall₂_of_mapM_eq_some h) hb

/-- Items written one by one are read back if each of them is. -/
theorem mapM_map_eq_pure {m : Type → Type} [Monad m] [LawfulMonad m] {write : α → β}
    {read : β → m α} (h : ∀ x ∈ xs, read (write x) = pure x) :
    (xs.map write).mapM read = pure xs := by
  induction xs with
  | nil => rfl
  | cons x xs ih =>
    obtain ⟨hx, hxs⟩ := List.forall_mem_cons.mp h
    rw [List.map_cons, List.mapM_cons, hx, pure_bind, ih hxs, pure_bind]

theorem run_bind_of_ended {x : OptionT Option α} {found : Option α}
    (h : x.run = some found) (next : α → OptionT Option β) :
    (x >>= next).run = found.elim (some none) fun value => (next value).run := by
  rw [OptionT.run_bind, h]
  cases found <;> rfl

theorem fromUTF8?_toUTF8 (text : String) : String.fromUTF8? text.toUTF8 = some text := by
  simp only [String.fromUTF8?, Option.dite_none_right_eq_some, Option.some.injEq]
  exact ⟨text.isValidUTF8, rfl⟩

end DeclTree

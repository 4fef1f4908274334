import DeclTree.Condition
import Mathlib.Tactic.ByContra

/-!
# Containment in lower case

Lower-casing treats every character on its own except a capital sigma, whose small form depends on
the letters around it. So the lower-case form of a text inside another one need not be its own, and
a text that contains another need not do so any more once both are in lower case. Whether this can
happen to a text is seen from the text alone: it cannot exactly if the letters inside the text
settle the form of every capital sigma in it.
-/

namespace DeclTree.Text

/-! ## The form of a capital sigma -/

/-- Whether the first character that is not case-ignorable is cased, if there is one. -/
def firstCased? (cs : List Char) : Option Bool :=
  (cs.find? fun c => !isCaseIgnorable c).map isCased

/-- Whether a capital sigma between two texts, of which the one before it is given backwards, has
the same small form whatever stands around them. The ordinary form is settled by either side, the
final form only by both. -/
def isSettled (before after : List Char) : Bool :=
  match firstCased? before, firstCased? after with
  | some false, _ => true
  | _, some true => true
  | some true, some false => true
  | _, _ => false

/-- The form of every capital sigma in a text is settled inside the text. -/
def Settled (cs : List Char) : Prop :=
  ∀ before after, cs = before ++ 'Σ' :: after → isSettled before.reverse after = true

theorem isSettled_eq_false_iff {before after : List Char} :
    isSettled before after = false ↔
      (firstCased? before = none ∧ firstCased? after ≠ some true) ∨
        (firstCased? before = some true ∧ firstCased? after = none) := by
  rw [isSettled]
  rcases firstCased? before with _ | _ | _ <;> rcases firstCased? after with _ | _ | _ <;> simp

theorem firstCased?_append (cs more : List Char) :
    firstCased? (cs ++ more) = (firstCased? cs).or (firstCased? more) := by
  unfold firstCased?
  rw [List.find?_append]
  cases cs.find? fun c => !isCaseIgnorable c <;> rfl

@[simp] theorem firstCased?_sigma (cs : List Char) : firstCased? ('Σ' :: cs) = some true := by
  have hsigma : isCaseIgnorable 'Σ' = false ∧ isCased 'Σ' = true := by decide +kernel
  simp [firstCased?, hsigma]

@[simp] theorem firstCased?_a (cs : List Char) : firstCased? ('a' :: cs) = some true := by
  have ha : isCaseIgnorable 'a' = false ∧ isCased 'a' = true := by decide +kernel
  simp [firstCased?, ha]

theorem sigma_notMem_of_firstCased? {cs : List Char} (h : firstCased? cs = none) : 'Σ' ∉ cs := by
  intro hmem
  obtain ⟨front, back, rfl⟩ := List.append_of_mem hmem
  simp [firstCased?_append] at h

theorem meetsCased_eq (cs : List Char) : meetsCased cs = (firstCased? cs).getD false := by
  unfold meetsCased firstCased?
  induction cs with
  | nil => rfl
  | cons c cs ih => by_cases h : isCaseIgnorable c = true <;> simp_all

theorem lowerSigma_eq (before after : List Char) :
    lowerSigma before after =
      if firstCased? before = some true ∧ firstCased? after ≠ some true then 'ς' else 'σ' := by
  rw [lowerSigma, meetsCased_eq, meetsCased_eq]
  rcases firstCased? before with _ | _ | _ <;> rcases firstCased? after with _ | _ | _ <;> rfl

theorem lowerSigma_append {before after : List Char} (h : isSettled before after = true)
    (front back : List Char) :
    lowerSigma (before ++ front) (after ++ back) = lowerSigma before after := by
  rw [isSettled] at h
  rw [lowerSigma_eq, lowerSigma_eq, firstCased?_append, firstCased?_append]
  split at h <;> simp_all

/-! ## Texts inside others -/

/-- Lower-cases a text between two others, of which the one before it is given backwards. -/
def lowerBetween (before after : List Char) : List Char → List Char
  | [] => []
  | c :: cs =>
    (if c = 'Σ' then [lowerSigma before (cs ++ after)] else lowerChar c) ++
      lowerBetween (c :: before) after cs

theorem lowerAfter_eq (before cs : List Char) :
    lowerAfter before cs = lowerBetween before [] cs := by
  induction cs generalizing before with
  | nil => rfl
  | cons c cs ih => rw [lowerAfter, lowerBetween, ih, List.append_nil]

theorem lowerBetween_append (before after cs ds : List Char) :
    lowerBetween before after (cs ++ ds) =
      lowerBetween before (ds ++ after) cs ++ lowerBetween (cs.reverse ++ before) after ds := by
  induction cs generalizing before with
  | nil => rfl
  | cons c cs ih =>
    rw [List.cons_append, lowerBetween, ih, lowerBetween]
    simp

theorem lower_append (front cs back : List Char) :
    lower (front ++ cs ++ back) =
      lowerBetween [] (cs ++ back) front ++ lowerBetween front.reverse back cs ++
        lowerBetween ((front ++ cs).reverse) [] back := by
  rw [lower, lowerAfter_eq, lowerBetween_append, lowerBetween_append]
  simp

theorem lowerBetween_sigma (before after cs ds : List Char) :
    lowerBetween before after (cs ++ 'Σ' :: ds) =
      lowerBetween before ('Σ' :: ds ++ after) cs ++
        lowerSigma (cs.reverse ++ before) (ds ++ after) ::
          lowerBetween ('Σ' :: (cs.reverse ++ before)) after ds := by
  rw [lowerBetween_append, lowerBetween, if_pos rfl, List.singleton_append]

/-- What stands around a text matters only for the form of its capital sigmas. -/
theorem lowerBetween_congr {before before' after after' cs : List Char}
    (h : ∀ front back, cs = front ++ 'Σ' :: back →
      lowerSigma (front.reverse ++ before) (back ++ after) =
        lowerSigma (front.reverse ++ before') (back ++ after')) :
    lowerBetween before after cs = lowerBetween before' after' cs := by
  induction cs generalizing before before' with
  | nil => rfl
  | cons c cs ih =>
    have hrest : lowerBetween (c :: before) after cs = lowerBetween (c :: before') after' cs := by
      apply ih
      rintro front back rfl
      simpa using h (c :: front) back rfl
    rw [lowerBetween, lowerBetween, hrest]
    split
    · rename_i hc
      have hform := h [] cs (by rw [hc, List.nil_append])
      rw [List.reverse_nil, List.nil_append, List.nil_append] at hform
      rw [hform]
    · rfl

theorem Settled.lowerBetween_eq {cs : List Char} (h : Settled cs) (before after : List Char) :
    lowerBetween before after cs = lower cs := by
  rw [lower, lowerAfter_eq]
  apply lowerBetween_congr
  intro front back hcs
  rw [List.append_nil, List.append_nil]
  exact lowerSigma_append (h front back hcs) before after

theorem Settled.occursIn_lower {cs text : List Char} (h : Settled cs)
    (hoccurs : occursIn cs text = true) : occursIn (lower cs) (lower text) = true := by
  obtain ⟨front, back, rfl⟩ := occursIn_iff.mp hoccurs
  rw [lower_append, h.lowerBetween_eq]
  exact occursIn_iff.mpr ⟨_, _, rfl⟩

/-! ## Texts with a sigma that is not settled -/

/-- A text with one character replaced does not contain the text as it was, if the character is none
of those around it: it would have to occur once more than it does. -/
theorem occursIn_replaced {x y : Char} (hxy : x ≠ y) {front back : List Char} (hfront : x ∉ front)
    (hback : x ∉ back) (cs ds : List Char) :
    occursIn (cs ++ x :: ds) (front ++ (cs ++ y :: ds) ++ back) = false := by
  rw [Bool.eq_false_iff]
  intro h
  obtain ⟨front', back', heq⟩ := occursIn_iff.mp h
  have hcount := congrArg (List.count x) heq
  simp only [List.count_append, List.count_cons_self, List.count_cons_of_ne hxy.symm,
    List.count_eq_zero_of_not_mem hfront, List.count_eq_zero_of_not_mem hback] at hcount
  omega

/-- A letter in front makes the first letter of a text final, if that is a capital sigma behind
which the text does not settle its form. -/
theorem occursIn_lower_of_initial {before after : List Char}
    (hbefore : firstCased? before.reverse = none) (hafter : firstCased? after ≠ some true) :
    occursIn (lower (before ++ 'Σ' :: after)) (lower ('a' :: (before ++ 'Σ' :: after))) =
      false := by
  have hown : lowerSigma before.reverse after = 'σ' := by simp [lowerSigma_eq, hbefore]
  have hinside : lowerSigma (before.reverse ++ ['a']) after = 'ς' := by
    simp [lowerSigma_eq, firstCased?_append, hbefore, hafter]
  have hfront : lowerBetween ['a'] ('Σ' :: after) before =
      lowerBetween [] ('Σ' :: after) before := by
    apply lowerBetween_congr
    rintro xs ys rfl
    exact absurd (by simp) (sigma_notMem_of_firstCased? hbefore)
  have hback : lowerBetween ('Σ' :: (before.reverse ++ ['a'])) [] after =
      lowerBetween ('Σ' :: before.reverse) [] after := by
    apply lowerBetween_congr
    intro xs ys _
    simp [lowerSigma_eq, firstCased?_append]
  have ha : lowerChar 'a' = ['a'] := by decide
  have hlower := lowerBetween_sigma [] [] before after
  have hlonger := lowerBetween_sigma ['a'] [] before after
  simp only [List.append_nil] at hlower hlonger
  rw [lower, lowerAfter_eq, lower, lowerAfter_eq, lowerBetween, hlower, hlonger, hown, hinside,
    hfront, hback, if_neg (by decide), ha]
  simpa using occursIn_replaced (show 'σ' ≠ 'ς' by decide) (show 'σ' ∉ ['a'] by decide)
    (show 'σ' ∉ [] by simp) _ _

/-- A letter behind makes the last letter of a text an ordinary one, if that is a capital sigma
before which there is a letter. -/
theorem occursIn_lower_of_last {before after : List Char}
    (hbefore : firstCased? before.reverse = some true) (hafter : firstCased? after = none) :
    occursIn (lower (before ++ 'Σ' :: after)) (lower (before ++ 'Σ' :: after ++ ['a'])) =
      false := by
  have hown : lowerSigma before.reverse after = 'ς' := by simp [lowerSigma_eq, hbefore, hafter]
  have hinside : lowerSigma before.reverse (after ++ ['a']) = 'σ' := by
    simp [lowerSigma_eq, firstCased?_append, hafter]
  have hfront : lowerBetween [] ('Σ' :: (after ++ ['a'])) before =
      lowerBetween [] ('Σ' :: after) before := by
    apply lowerBetween_congr
    intro xs ys _
    simp [lowerSigma_eq, firstCased?_append]
  have hback : lowerBetween ('Σ' :: before.reverse) ['a'] after =
      lowerBetween ('Σ' :: before.reverse) [] after := by
    apply lowerBetween_congr
    rintro xs ys rfl
    exact absurd (by simp) (sigma_notMem_of_firstCased? hafter)
  have ha : ∀ cs, lowerBetween cs [] ['a'] = ['a'] := fun cs => by
    rw [lowerBetween, if_neg (by decide), lowerBetween, List.append_nil]
    decide
  have hlower := lowerBetween_sigma [] [] before after
  have hlonger := lowerBetween_sigma [] ['a'] before after
  simp only [List.append_nil, List.cons_append] at hlower hlonger
  rw [lower, lowerAfter_eq, lower, lowerAfter_eq, lowerBetween_append [] [] _ ['a'],
    List.append_nil, hlower, hlonger, hown, hinside, hfront, hback, ha]
  exact occursIn_replaced (show 'ς' ≠ 'σ' by decide) (show 'ς' ∉ [] by simp)
    (show 'ς' ∉ ['a'] by decide) _ _

theorem exists_occursIn_of_not_settled {cs : List Char} (h : ¬Settled cs) :
    ∃ text, occursIn cs text = true ∧ occursIn (lower cs) (lower text) = false := by
  unfold Settled at h
  push Not at h
  obtain ⟨before, after, rfl, hopen⟩ := h
  -- A letter put on the side that settles nothing changes the form.
  rcases isSettled_eq_false_iff.mp (Bool.eq_false_iff.mpr hopen) with
    ⟨hbefore, hafter⟩ | ⟨hbefore, hafter⟩
  · exact ⟨'a' :: (before ++ 'Σ' :: after), occursIn_iff.mpr ⟨['a'], [], by simp⟩,
      occursIn_lower_of_initial hbefore hafter⟩
  · exact ⟨before ++ 'Σ' :: after ++ ['a'], occursIn_iff.mpr ⟨[], ['a'], by simp⟩,
      occursIn_lower_of_last hbefore hafter⟩

theorem settled_iff {cs : List Char} :
    Settled cs ↔ ∀ text, occursIn cs text = true → occursIn (lower cs) (lower text) = true := by
  constructor
  · intro h text
    exact h.occursIn_lower
  · intro h
    by_contra hcs
    obtain ⟨text, hoccurs, hlower⟩ := exists_occursIn_of_not_settled hcs
    rw [h text hoccurs] at hlower
    cases hlower

end DeclTree.Text

namespace DeclTree.TextCondition

/-- Ignoring case accepts every text that is accepted otherwise exactly if the form of each capital
sigma in the value is settled by the value itself. -/
theorem containsIgnoringCase_of_contains_iff (value : String) :
    (∀ text, (contains value).accepts text = true →
        (containsIgnoringCase value).accepts text = true) ↔
      Text.Settled value.toList := by
  rw [Text.settled_iff]
  constructor
  · intro h text
    simpa [accepts] using h (String.ofList text)
  · intro h text
    exact h text.toList

/-- A capital sigma at the end of a word has another small form there than on its own. -/
theorem not_containsIgnoringCase_final_sigma :
    ¬((contains "Σ").accepts "ΑΣ" = true → (containsIgnoringCase "Σ").accepts "ΑΣ" = true) := by
  decide +kernel

end DeclTree.TextCondition

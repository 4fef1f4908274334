import DeclTree.Proofs.Json.Grammar

/-!
# The reader recognizes the grammar

Whatever the reader takes in is spelled by the text it took, so that it accepts exactly the texts of
the grammar and gives each of them the value it spells.
-/

namespace DeclTree.Json

/-! ## Tokens -/

theorem exists_blank (cs : List Char) : ∃ blanks, Blank blanks ∧ cs = blanks ++ skipSpace cs :=
  ⟨cs.takeWhile isSpace, fun _ hc => List.mem_takeWhile_imp hc,
    List.takeWhile_append_dropWhile.symm⟩

theorem exists_literal {cs rest : List Char} {units : List Nat}
    (h : readUnits cs = some (units, rest)) : ∃ body, Literal body units ∧ cs = body ++ rest := by
  induction cs using readUnits.induct generalizing units with
  | case1 a b c d cs ih =>
    simp only [readUnits, Option.bind_eq_bind, Option.bind_eq_some_iff, Option.pure_def,
      Option.some.injEq, Prod.mk.injEq] at h
    obtain ⟨unit, hunit, ⟨more, rest'⟩, hmore, rfl, rfl⟩ := h
    obtain ⟨body, hbody, rfl⟩ := ih hmore
    exact ⟨_, .number hunit hbody, rfl⟩
  | case2 c cs hnumber ih =>
    rw [readUnits] at h
    · simp only [Option.bind_eq_bind, Option.bind_eq_some_iff, Option.pure_def,
        Option.some.injEq, Prod.mk.injEq] at h
      obtain ⟨letter, hletter, ⟨more, rest'⟩, hmore, rfl, rfl⟩ := h
      obtain ⟨body, hbody, rfl⟩ := ih hmore
      exact ⟨_, .letter hletter hbody, rfl⟩
    · exact hnumber
  | case3 cs hnumber hletter =>
    rw [readUnits] at h
    · cases h
      exact ⟨_, .close, rfl⟩
    · exact hnumber
    · exact hletter
  | case4 c cs hnumber hletter hquote hrefused =>
    rw [readUnits] at h
    · simp [hquote, hrefused] at h
    · exact hnumber
    · exact hletter
  | case5 c cs hnumber hletter hquote hplain ih =>
    rw [readUnits] at h
    · rw [if_neg hquote, if_neg hplain] at h
      obtain ⟨⟨more, rest'⟩, hmore, heq⟩ := Option.bind_eq_some_iff.mp h
      cases heq
      obtain ⟨body, hbody, rfl⟩ := ih hmore
      simp only [Bool.or_eq_true, decide_eq_true_eq, not_or, not_lt] at hplain
      exact ⟨_, .plain hquote hplain.1 hplain.2 hbody, rfl⟩
    · exact hnumber
    · exact hletter
  | case6 => simp [readUnits] at h

theorem exists_string {cs rest : List Char} {text : Option String}
    (h : readString cs = some (text, rest)) :
    ∃ body units, Literal body units ∧ text = denoted units ∧ cs = body ++ rest := by
  obtain ⟨⟨units, rest'⟩, hunits, heq⟩ := Option.bind_eq_some_iff.mp h
  cases heq
  obtain ⟨body, hbody, rfl⟩ := exists_literal hunits
  exact ⟨body, units, hbody, rfl, rfl⟩

theorem exists_digits {cs digits rest : List Char} (h : readDigits cs = some (digits, rest)) :
    Digits digits ∧ cs = digits ++ rest := by
  rw [readDigits, List.span_eq_takeWhile_dropWhile] at h
  split at h
  rename_i read rest' heq
  cases heq
  split at h
  · cases h
  · rename_i hne
    cases h
    refine ⟨⟨by simpa using hne, fun c hc => List.mem_takeWhile_imp hc⟩, ?_⟩
    exact List.takeWhile_append_dropWhile.symm

theorem exists_numeral {cs digits rest : List Char} (h : readInteger cs = some (digits, rest)) :
    Numeral digits ∧ cs = digits ++ rest := by
  have hzero : Numeral ['0'] :=
    ⟨⟨by simp, List.forall_mem_singleton.mpr (by decide)⟩, fun _ => rfl⟩
  unfold readInteger at h
  split at h
  · split at h
    · split at h
      · cases h
      · cases h
        exact ⟨hzero, rfl⟩
    · cases h
      exact ⟨hzero, rfl⟩
  · rename_i hstart
    obtain ⟨hdigits, rfl⟩ := exists_digits h
    refine ⟨⟨hdigits, fun hhead => ?_⟩, rfl⟩
    obtain ⟨c, cs, rfl, -⟩ := hdigits.exists_cons
    cases hhead
    exact absurd rfl (hstart _)

theorem exists_fraction {cs fraction rest : List Char}
    (h : readFraction cs = some (fraction, rest)) : Fraction fraction ∧ cs = fraction ++ rest := by
  unfold readFraction at h
  split at h
  · obtain ⟨⟨digits, rest'⟩, hread, heq⟩ := Option.bind_eq_some_iff.mp h
    cases heq
    obtain ⟨hdigits, rfl⟩ := exists_digits hread
    exact ⟨.digits hdigits, rfl⟩
  · cases h
    exact ⟨.absent, rfl⟩

theorem exists_exponent {cs exponent rest : List Char}
    (h : readExponent cs = some (exponent, rest)) : Exponent exponent ∧ cs = exponent ++ rest := by
  unfold readExponent at h
  split at h
  · split at h
    · rename_i he
      simp only [Bool.or_eq_true, decide_eq_true_eq] at he
      split at h
      · split at h
        · rename_i hsign
          simp only [Bool.or_eq_true, decide_eq_true_eq] at hsign
          obtain ⟨⟨digits, rest'⟩, hread, heq⟩ := Option.bind_eq_some_iff.mp h
          cases heq
          obtain ⟨hdigits, rfl⟩ := exists_digits hread
          exact ⟨.signed he hsign hdigits, rfl⟩
        · obtain ⟨⟨digits, rest'⟩, hread, heq⟩ := Option.bind_eq_some_iff.mp h
          cases heq
          obtain ⟨hdigits, hcs⟩ := exists_digits hread
          exact ⟨.unsigned he hdigits, by rw [hcs, List.cons_append]⟩
      · cases h
    · cases h
      exact ⟨.absent, rfl⟩
  · cases h
    exact ⟨.absent, rfl⟩

theorem exists_unsigned {cs digits rest : List Char} (h : readUnsigned cs = some (digits, rest)) :
    Unsigned digits ∧ cs = digits ++ rest := by
  obtain ⟨⟨integer, afterInteger⟩, hinteger, hmore⟩ := Option.bind_eq_some_iff.mp h
  obtain ⟨⟨fraction, afterFraction⟩, hfraction, hlast⟩ := Option.bind_eq_some_iff.mp hmore
  obtain ⟨⟨exponent, afterExponent⟩, hexponent, heq⟩ := Option.bind_eq_some_iff.mp hlast
  cases heq
  obtain ⟨hinteger, hcs⟩ := exists_numeral hinteger
  obtain ⟨hfraction, hafterInteger⟩ := exists_fraction hfraction
  obtain ⟨hexponent, hafterFraction⟩ := exists_exponent hexponent
  rw [hcs, hafterInteger, hafterFraction, List.append_assoc integer]
  exact ⟨.mk hinteger hfraction hexponent, by simp⟩

theorem exists_number {cs digits rest : List Char} (h : readNumber cs = some (digits, rest)) :
    Number digits ∧ cs = digits ++ rest := by
  unfold readNumber at h
  split at h
  · obtain ⟨⟨digits, rest'⟩, hread, heq⟩ := Option.bind_eq_some_iff.mp h
    cases heq
    obtain ⟨hdigits, rfl⟩ := exists_unsigned hread
    exact ⟨.negative hdigits, rfl⟩
  · obtain ⟨hdigits, rfl⟩ := exists_unsigned h
    exact ⟨.positive hdigits, rfl⟩

/-! ## Values -/

/-- Behind blanks, a value is read from a text that spells it. -/
def ValueFrom (cs : List Char) (json : Json) (rest : List Char) : Prop :=
  ∃ blanks body, Blank blanks ∧ Spells body (.value json) ∧ cs = blanks ++ (body ++ rest)

/-- A piece is read from a text that spells it. -/
def PieceFrom (cs : List Char) (piece : Piece) (rest : List Char) : Prop :=
  ∃ body, Spells body piece ∧ cs = body ++ rest

/-- Blanks in front of items are part of what spells them. -/
theorem PieceFrom.items_of_skipSpace {cs rest : List Char} {items : List Json}
    (h : PieceFrom (skipSpace cs) (.items items) rest) : PieceFrom cs (.items items) rest := by
  obtain ⟨body, hbody, hskip⟩ := h
  obtain ⟨blanks, hblanks, hcs⟩ := exists_blank cs
  cases hbody with
  | items hfront hfirst hmore =>
    refine ⟨_, .items (hblanks.append hfront) hfirst hmore, ?_⟩
    rw [hcs, hskip]
    simp

theorem PieceFrom.members_of_skipSpace {cs rest : List Char}
    {members : List (Option String × Json)}
    (h : PieceFrom (skipSpace cs) (.members members) rest) :
    PieceFrom cs (.members members) rest := by
  obtain ⟨body, hbody, hskip⟩ := h
  obtain ⟨blanks, hblanks, hcs⟩ := exists_blank cs
  cases hbody with
  | members hfront hname hbefore hafter hfirst hmore =>
    refine ⟨_, .members (hblanks.append hfront) hname hbefore hafter hfirst hmore, ?_⟩
    rw [hcs, hskip]
    simp

/-- Where members are read, a name stands first and a colon behind it. -/
theorem exists_name_of_readMembers {fuel : Nat} {cs rest : List Char}
    {members : List (Option String × Json)}
    (h : readMembers (fuel + 1) cs = some (members, rest)) :
    ∃ afterQuote name afterName afterColon, skipSpace cs = '"' :: afterQuote ∧
      readString afterQuote = some (name, afterName) ∧ skipSpace afterName = ':' :: afterColon := by
  rw [readMembers] at h
  split at h
  · rename_i afterQuote hquote
    obtain ⟨⟨name, afterName⟩, hname, h⟩ := Option.bind_eq_some_iff.mp h
    dsimp only at h
    split at h
    · rename_i afterColon hcolon
      exact ⟨afterQuote, name, afterName, afterColon, hquote, hname, hcolon⟩
    · cases h
  · cases h

section

variable {fuel : Nat} {cs rest : List Char}
  (hvalue : ∀ cs json rest, readValue fuel cs = some (json, rest) → ValueFrom cs json rest)
  (hitems : ∀ cs items rest, readItems fuel cs = some (items, rest) →
    PieceFrom cs (.items items) rest)
  (hmembers : ∀ cs members rest, readMembers fuel cs = some (members, rest) →
    PieceFrom cs (.members members) rest)

include hitems in
theorem pieceFrom_of_readMoreItems {items : List Json}
    (h : readMoreItems fuel cs = some (items, rest)) :
    PieceFrom cs (.moreItems items) rest := by
  obtain ⟨blanks, hblanks, hcs⟩ := exists_blank cs
  unfold readMoreItems at h
  split at h
  · rename_i hcomma
    obtain ⟨body, hbody, rfl⟩ := hitems _ _ _ h
    exact ⟨_, .nextItem hblanks hbody, by rw [hcs, hcomma]; simp⟩
  · rename_i hclose
    cases h
    exact ⟨_, .endItems hblanks, by rw [hcs, hclose]; simp⟩
  · cases h

include hmembers in
theorem pieceFrom_of_readMoreMembers {members : List (Option String × Json)}
    (h : readMoreMembers fuel cs = some (members, rest)) :
    PieceFrom cs (.moreMembers members) rest := by
  obtain ⟨blanks, hblanks, hcs⟩ := exists_blank cs
  unfold readMoreMembers at h
  split at h
  · rename_i hcomma
    obtain ⟨body, hbody, rfl⟩ := hmembers _ _ _ h
    exact ⟨_, .nextMember hblanks hbody, by rw [hcs, hcomma]; simp⟩
  · rename_i hclose
    cases h
    exact ⟨_, .endMembers hblanks, by rw [hcs, hclose]; simp⟩
  · cases h

include hvalue hitems in
theorem pieceFrom_of_readItems {items : List Json}
    (h : readItems (fuel + 1) cs = some (items, rest)) :
    PieceFrom cs (.items items) rest := by
  rw [readItems_succ] at h
  obtain ⟨⟨first, afterFirst⟩, hfirst, h⟩ := Option.bind_eq_some_iff.mp h
  obtain ⟨⟨more, afterMore⟩, hmore, heq⟩ := Option.map_eq_some_iff.mp h
  cases heq
  obtain ⟨blanks, body, hblanks, hbody, hcs⟩ := hvalue _ _ _ hfirst
  obtain ⟨tail, htail, hafter⟩ := pieceFrom_of_readMoreItems hitems hmore
  dsimp only at hafter
  exact ⟨_, .items hblanks hbody htail, by rw [hcs, hafter]; simp⟩

include hvalue hmembers in
theorem pieceFrom_of_readMembers {members : List (Option String × Json)}
    (h : readMembers (fuel + 1) cs = some (members, rest)) :
    PieceFrom cs (.members members) rest := by
  obtain ⟨front, hfront, hcs⟩ := exists_blank cs
  obtain ⟨afterQuote, name, afterName, afterColon, hquote, hname, hcolon⟩ :=
    exists_name_of_readMembers h
  rw [readMembers_succ hquote hname hcolon] at h
  obtain ⟨⟨first, afterFirst⟩, hfirst, h⟩ := Option.bind_eq_some_iff.mp h
  obtain ⟨⟨more, afterMore⟩, hmore, heq⟩ := Option.map_eq_some_iff.mp h
  cases heq
  obtain ⟨literal, units, hliteral, rfl, hafterQuote⟩ := exists_string hname
  obtain ⟨before, hbefore, hafterName⟩ := exists_blank afterName
  obtain ⟨after, body, hafter, hbody, hafterColon⟩ := hvalue _ _ _ hfirst
  obtain ⟨tail, htail, hafterFirst⟩ := pieceFrom_of_readMoreMembers hmembers hmore
  dsimp only at hafterFirst
  refine ⟨_, .members hfront hliteral hbefore hafter hbody htail, ?_⟩
  rw [hcs, hquote, hafterQuote, hafterName, hcolon, hafterColon, hafterFirst]
  simp

include hitems hmembers in
theorem valueFrom_of_readValue {json : Json}
    (h : readValue (fuel + 1) cs = some (json, rest)) : ValueFrom cs json rest := by
  obtain ⟨blanks, hblanks, hcs⟩ := exists_blank cs
  suffices hbody : PieceFrom (skipSpace cs) (.value json) rest by
    obtain ⟨body, hbody, hskip⟩ := hbody
    exact ⟨blanks, body, hblanks, hbody, by rw [hcs, hskip]⟩
  -- The first sign tells which kind of value is read; anything else has to be a number.
  rw [readValue] at h
  split at h
  · rename_i hstart
    obtain ⟨⟨text, afterText⟩, hread, heq⟩ := Option.bind_eq_some_iff.mp h
    cases heq
    obtain ⟨body, units, hbody, rfl, rfl⟩ := exists_string hread
    exact ⟨_, .string hbody, hstart⟩
  · rename_i inside hstart
    obtain ⟨front, hfront, hinside⟩ := exists_blank inside
    split at h
    · rename_i hclose
      cases h
      exact ⟨_, .emptyArray hfront, by rw [hstart, hinside, hclose]; simp⟩
    · obtain ⟨⟨items, afterItems⟩, hread, heq⟩ := Option.bind_eq_some_iff.mp h
      cases heq
      obtain ⟨body, hbody, hrest⟩ := (hitems _ _ _ hread).items_of_skipSpace
      exact ⟨_, .array hbody, by rw [hstart, hrest]; simp⟩
  · rename_i inside hstart
    obtain ⟨front, hfront, hinside⟩ := exists_blank inside
    split at h
    · rename_i hclose
      cases h
      exact ⟨_, .emptyObject hfront, by rw [hstart, hinside, hclose]; simp⟩
    · obtain ⟨⟨members, afterMembers⟩, hread, heq⟩ := Option.bind_eq_some_iff.mp h
      cases heq
      obtain ⟨body, hbody, hrest⟩ := (hmembers _ _ _ hread).members_of_skipSpace
      exact ⟨_, .object hbody, by rw [hstart, hrest]; simp⟩
  · rename_i hstart
    cases h
    exact ⟨_, .null, hstart⟩
  · rename_i hstart
    cases h
    exact ⟨_, .bool_true, hstart⟩
  · rename_i hstart
    cases h
    exact ⟨_, .bool_false, hstart⟩
  · obtain ⟨⟨digits, afterDigits⟩, hread, heq⟩ := Option.bind_eq_some_iff.mp h
    cases heq
    obtain ⟨hdigits, hrest⟩ := exists_number hread
    exact ⟨_, .number hdigits, hrest⟩

end

theorem read_from (fuel : Nat) :
    (∀ cs json rest, readValue fuel cs = some (json, rest) → ValueFrom cs json rest) ∧
    (∀ cs items rest, readItems fuel cs = some (items, rest) →
    PieceFrom cs (.items items) rest) ∧
    (∀ cs members rest, readMembers fuel cs = some (members, rest) →
      PieceFrom cs (.members members) rest) := by
  induction fuel with
  | zero => simp [readValue, readItems, readMembers]
  | succ fuel ih =>
    obtain ⟨hvalue, hitems, hmembers⟩ := ih
    exact ⟨fun _ _ _ => valueFrom_of_readValue hitems hmembers,
      fun _ _ _ => pieceFrom_of_readItems hvalue hitems,
      fun _ _ _ => pieceFrom_of_readMembers hvalue hmembers⟩

/-- A text is read as a value exactly when it spells the value. -/
theorem parse?_eq_some_iff {json : Json} {text : String} :
    parse? text = some json ↔ SpelledBy json text := by
  refine ⟨fun h => ?_, parse?_of_spelledBy⟩
  unfold parse? at h
  dsimp only at h
  split at h
  · rename_i value rest hread
    split at h
    · rename_i hend
      cases h
      obtain ⟨blanks, body, hblanks, hbody, htext⟩ := (read_from _).1 _ _ _ hread
      refine ⟨blanks, body, rest, hblanks, hbody, ?_, htext⟩
      exact List.dropWhile_eq_nil_iff.mp (List.isEmpty_iff.mp hend)
    · cases h
  · cases h

end DeclTree.Json

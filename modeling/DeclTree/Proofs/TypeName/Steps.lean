import DeclTree.Proofs.Outcomes
import DeclTree.Proofs.TypeName.RoundTrip

/-!
# The steps of reading

The readers of type names take a number of steps along, and refuse a text when it is used up. Here
the same recursion tells the two ways apart in which there is no type: it stops unfinished when the
steps are used up, and it ends without a type when the text is refused. With three steps for each
character and three more it ends on every text, with the answer of the readers. So the number of
steps is never the reason for refusing a text.
-/

open DeclTree.Text

namespace DeclTree

namespace TypeName

/-- The recursion has ended, and a missing value says that the text is refused. -/
def ended {α : Type} (found : Option α) : OptionT Option α := .mk (some found)

/-- The steps are used up before the recursion has ended. -/
def unfinished {α : Type} : OptionT Option α := .mk none

mutual

/-- Reads a type. -/
def scanType : Nat → List Char → OptionT Option (TypeName × List Char)
  | 0, _ => unfinished
  | steps + 1, cs =>
    match skipBlank cs with
    | '(' :: rest => do
      let (args, rest) ← scanList steps ')' rest
      pure (tuple args, rest)
    | cs =>
      let (raw, rest) := spanPath cs
      let path := normalizePath raw
      if path.isEmpty then ended none
      else
        match rest with
        | '<' :: rest => do
          let (args, rest) ← scanList steps '>' rest
          ended ((ofPath? path args).map (·, rest))
        | rest => ended ((ofPath? path []).map (·, rest))

/-- Reads a list of types after its opening bracket, through the closing one. -/
def scanList : Nat → Char → List Char → OptionT Option (List TypeName × List Char)
  | 0, _, _ => unfinished
  | steps + 1, close, cs =>
    match skipBlank cs with
    | [] => ended none
    | c :: rest => if c = close then pure ([], rest) else scanItems steps close (c :: rest)

/-- Reads one or more types separated by commas, through the closing bracket. -/
def scanItems : Nat → Char → List Char → OptionT Option (List TypeName × List Char)
  | 0, _, _ => unfinished
  | steps + 1, close, cs => do
    let (item, rest) ← scanType steps cs
    match skipBlank rest with
    | [] => ended none
    | c :: rest =>
      if c = ',' then do
        let (items, rest) ← scanItems steps close rest
        pure (item :: items, rest)
      else if c = close then pure ([item], rest)
      else ended none

end

/-- Reads a text that holds a type and nothing else but blanks around it. -/
def scan (steps : Nat) (text : List Char) : OptionT Option TypeName := do
  let (type, rest) ← scanType steps text
  ended (if (skipBlank rest).isEmpty then some type else none)

/-! ## What is left becomes shorter -/

theorem length_lt_of_skipBlank {c : Char} {rest cs : List Char} (h : skipBlank cs = c :: rest) :
    rest.length < cs.length := by
  have hsuffix : skipBlank cs <:+ cs := List.dropWhile_suffix isBlank
  have hlength := hsuffix.length_le
  rw [h, List.length_cons] at hlength
  exact hlength

theorem length_spanPath_le (cs : List Char) : (spanPath (skipBlank cs)).2.length ≤ cs.length := by
  rw [spanPath, List.span_eq_takeWhile_dropWhile]
  exact ((List.dropWhile_suffix _).trans (List.dropWhile_suffix isBlank)).length_le

/-- The readers leave no more than they were given. -/
theorem length_le_of_read (fuel : Nat) :
    (∀ cs type rest, readType fuel cs = some (type, rest) → rest.length ≤ cs.length) ∧
    (∀ close cs types rest, readList fuel close cs = some (types, rest) →
      rest.length ≤ cs.length) ∧
    ∀ close cs types rest, readItems fuel close cs = some (types, rest) →
      rest.length ≤ cs.length := by
  induction fuel with
  | zero => simp [readType, readList, readItems]
  | succ fuel ih =>
    obtain ⟨ihtype, ihlist, ihitems⟩ := ih
    refine ⟨?_, ?_, ?_⟩
    · intro cs type rest h
      rcases readType_eq_some.mp h with
        ⟨inner, args, hopen, hargs, -⟩ | ⟨raw, after, hspan, -, hcase⟩
      · have hinner := length_lt_of_skipBlank hopen
        have hrest := ihlist ')' inner args rest hargs
        omega
      · have hafter := length_spanPath_le cs
        rw [hspan] at hafter
        rcases hcase with ⟨inner, args, rfl, hargs, -⟩ | ⟨-, rfl, -⟩
        · have hrest := ihlist '>' inner args rest hargs
          rw [List.length_cons] at hafter
          omega
        · exact hafter
    · intro close cs types rest h
      rcases readList_eq_some.mp h with ⟨hclose, -⟩ | ⟨c, inner, hskip, -, hitems⟩
      · exact (length_lt_of_skipBlank hclose).le
      · have hinner := length_lt_of_skipBlank hskip
        have hrest := ihitems close (c :: inner) types rest hitems
        rw [List.length_cons] at hrest
        omega
    · intro close cs types rest h
      obtain ⟨first, after, hfirst, hcase⟩ := readItems_eq_some.mp h
      have hafter := ihtype cs first after hfirst
      rcases hcase with ⟨inner, more, hcomma, hmore, -⟩ | ⟨-, hclose, -⟩
      · have hinner := length_lt_of_skipBlank hcomma
        have hrest := ihitems close inner more rest hmore
        omega
      · have hrest := length_lt_of_skipBlank hclose
        omega

/-! ## The recursion ends -/

section Cases

variable {cs raw rest : List Char}

/-- A type is a tuple or a path, and a path has arguments or none, as the next character tells. -/
theorem readType_succ (hspan : spanPath (skipBlank cs) = (raw, rest)) (fuel : Nat) :
    readType (fuel + 1) cs =
      if (skipBlank cs).head? = some '(' then
        (readList fuel ')' (skipBlank cs).tail).map fun found => (tuple found.1, found.2)
      else if (normalizePath raw).isEmpty then none
      else if rest.head? = some '<' then
        (readList fuel '>' rest.tail).bind fun found =>
          (ofPath? (normalizePath raw) found.1).map (·, found.2)
      else (ofPath? (normalizePath raw) []).map (·, rest) := by
  rw [readType]
  split
  · rename_i inner hopen
    rw [hopen, List.head?_cons, if_pos rfl, List.tail_cons]
    cases readList fuel ')' inner <;> rfl
  · rename_i hopen
    have hpath : (skipBlank cs).head? ≠ some '(' :=
      fun h => hopen _ (List.eq_cons_of_mem_head? h)
    rw [if_neg hpath, hspan]
    dsimp only
    congr 1
    split
    · rename_i inner
      rw [List.head?_cons, if_pos rfl, List.tail_cons]
      cases readList fuel '>' inner with
      | none => rfl
      | some found =>
        simp only [Option.bind_eq_bind, Option.bind_some]
        cases ofPath? (normalizePath raw) found.1 <;> rfl
    · rename_i hbare
      have hrest : rest.head? ≠ some '<' := fun h => hbare _ (List.eq_cons_of_mem_head? h)
      rw [if_neg hrest]
      cases ofPath? (normalizePath raw) [] <;> rfl

theorem scanType_succ (hspan : spanPath (skipBlank cs) = (raw, rest)) (steps : Nat) :
    scanType (steps + 1) cs =
      if (skipBlank cs).head? = some '(' then
        scanList steps ')' (skipBlank cs).tail >>= fun found => pure (tuple found.1, found.2)
      else if (normalizePath raw).isEmpty then ended none
      else if rest.head? = some '<' then
        scanList steps '>' rest.tail >>= fun found =>
          ended ((ofPath? (normalizePath raw) found.1).map (·, found.2))
      else ended ((ofPath? (normalizePath raw) []).map (·, rest)) := by
  rw [scanType]
  split
  · rename_i inner hopen
    rw [hopen, List.head?_cons, if_pos rfl, List.tail_cons]
  · rename_i hopen
    have hpath : (skipBlank cs).head? ≠ some '(' :=
      fun h => hopen _ (List.eq_cons_of_mem_head? h)
    rw [if_neg hpath, hspan]
    dsimp only
    congr 1
    split
    · rename_i inner
      rw [List.head?_cons, if_pos rfl, List.tail_cons]
    · rename_i hbare
      have hrest : rest.head? ≠ some '<' := fun h => hbare _ (List.eq_cons_of_mem_head? h)
      rw [if_neg hrest]

end Cases

/-- With enough steps the recursion ends, with the answer that the readers give. -/
theorem scan_eq_read (fuel : Nat) :
    (∀ cs, 3 * cs.length + 1 ≤ fuel → (scanType fuel cs).run = some (readType fuel cs)) ∧
    (∀ close cs, 3 * cs.length + 3 ≤ fuel →
      (scanList fuel close cs).run = some (readList fuel close cs)) ∧
    ∀ close cs, 3 * cs.length + 2 ≤ fuel →
      (scanItems fuel close cs).run = some (readItems fuel close cs) := by
  -- A type calls a list only behind its bracket, and items call items only behind a comma.
  induction fuel with
  | zero => simp
  | succ fuel ih =>
    obtain ⟨ihtype, ihlist, ihitems⟩ := ih
    refine ⟨?_, ?_, ?_⟩
    · intro cs hfuel
      obtain ⟨raw, rest, hspan⟩ : ∃ raw rest, spanPath (skipBlank cs) = (raw, rest) :=
        ⟨_, _, rfl⟩
      have hrest := length_spanPath_le cs
      rw [hspan] at hrest
      dsimp only at hrest
      rw [readType_succ hspan, scanType_succ hspan]
      split
      · rename_i hopen
        have hinner := length_lt_of_skipBlank (List.eq_cons_of_mem_head? hopen)
        rw [run_bind_of_ended (ihlist ')' _ (by omega))]
        cases readList fuel ')' (skipBlank cs).tail <;> rfl
      · split
        · rfl
        · split
          · rename_i harguments
            have hinner := congrArg List.length (List.eq_cons_of_mem_head? harguments)
            rw [List.length_cons] at hinner
            rw [run_bind_of_ended (ihlist '>' _ (by omega))]
            cases readList fuel '>' rest.tail <;> rfl
          · rfl
    · intro close cs hfuel
      rw [scanList, readList]
      cases hskip : skipBlank cs with
      | nil => rfl
      | cons c rest =>
        have hrest := length_lt_of_skipBlank hskip
        dsimp only
        split
        · rfl
        · exact ihitems close (c :: rest) (by rw [List.length_cons]; omega)
    · intro close cs hfuel
      rw [scanItems, readItems, run_bind_of_ended (ihtype cs (by omega))]
      cases htype : readType fuel cs with
      | none => rfl
      | some found =>
        obtain ⟨item, after⟩ := found
        have hafter := (length_le_of_read fuel).1 cs item after htype
        simp only [Option.elim_some, Option.bind_eq_bind, Option.bind_some]
        cases hskip : skipBlank after with
        | nil => rfl
        | cons c rest =>
          have hrest := length_lt_of_skipBlank hskip
          dsimp only
          split
          · rw [run_bind_of_ended (ihitems close rest (by omega))]
            cases readItems fuel close rest <;> rfl
          · split <;> rfl

theorem scan_run (text : List Char) :
    (scan (3 * text.length + 3) text).run = some (parse? text) := by
  have htype := (scan_eq_read (3 * text.length + 3)).1 text (by omega)
  rw [scan, run_bind_of_ended htype, parse?]
  cases readType (3 * text.length + 3) text <;> rfl

end TypeName

end DeclTree

import DeclTree.TypeName.Parser
import Mathlib.Data.List.Chain
import Mathlib.Data.List.DropRight

/-!
# Normalised paths

A normalised path is the dotted join of segments: texts without dots and `::` in which single spaces
stand only between other characters. Normalising gives such a path and leaves it as it is.
-/

namespace DeclTree

namespace Text

@[simp] theorem skipBlank_nil : skipBlank [] = [] := rfl

@[simp] theorem skipBlank_blank {c : Char} (hc : isBlank c = true) (cs : List Char) :
    skipBlank (c :: cs) = skipBlank cs := by
  simp [skipBlank, hc]

@[simp] theorem skipBlank_cons {c : Char} (hc : isBlank c = false) (cs : List Char) :
    skipBlank (c :: cs) = c :: cs := by
  simp [skipBlank, hc]

/-! ## Collapsing blanks -/

/-- The only blank is the space, and no two of them stand side by side. -/
structure Spaced (cs : List Char) : Prop where
  apart : cs.IsChain fun a b => isBlank a = true → isBlank b = false
  eq_space : ∀ c ∈ cs, isBlank c = true → c = ' '

theorem Spaced.of_part {part cs : List Char} (h : Spaced cs) (hpart : part <:+: cs) :
    Spaced part := by
  refine ⟨ List.IsChain.infix h.apart hpart, ?_⟩
  intro c hc
  exact h.eq_space c (hpart.subset hc)

theorem spaced_cons {c : Char} {cs : List Char} :
    Spaced (c :: cs) ↔
      Spaced cs ∧ (isBlank c = true → c = ' ' ∧ ∀ d ∈ cs.head?, isBlank d = false) := by
  constructor
  · intro h
    refine ⟨h.of_part (List.suffix_cons c cs).isInfix, ?_⟩
    intro hc
    refine ⟨h.eq_space c (by simp) hc, ?_⟩
    intro d hd
    exact h.apart.rel_head? hd hc
  · rintro ⟨h, hc⟩
    refine ⟨h.apart.cons ?_, ?_⟩
    · intro d hd hblank
      exact (hc hblank).2 d hd
    · intro d hd hblank
      rcases List.mem_cons.mp hd with rfl | hd
      · exact (hc hblank).1
      · exact h.eq_space d hd hblank

theorem words_ne_nil {c : Char} (hc : isBlank c = false) (cs : List Char) :
    words (c :: cs) ≠ [] := by
  rw [words, if_neg (by simp [hc])]
  cases words cs with
  | nil => simp [consWord]
  | cons w ws =>
    rw [consWord]
    split <;> simp

theorem collapseBlanks_blank {c : Char} (hc : isBlank c = true) (cs : List Char) :
    collapseBlanks (c :: cs) = collapseBlanks cs := by
  rw [collapseBlanks, words_blank cs hc, collapseBlanks]

theorem collapseBlanks_cons {c : Char} (hc : isBlank c = false) (cs : List Char) :
    collapseBlanks (c :: cs) =
      c :: if wordEnds cs = true ∧ words cs ≠ [] then ' ' :: collapseBlanks cs
        else collapseBlanks cs := by
  rw [collapseBlanks, collapseBlanks, words, if_neg (by simp [hc])]
  cases words cs with
  | nil => simp [consWord]
  | cons w ws => cases hends : wordEnds cs <;> simp [consWord]

theorem head_collapseBlanks {cs : List Char} :
    ∀ c ∈ (collapseBlanks cs).head?, isBlank c = false := by
  induction cs with
  | nil => simp [collapseBlanks]
  | cons d ds ih =>
    intro c hc
    cases hd : isBlank d with
    | true =>
      rw [collapseBlanks_blank hd] at hc
      exact ih c hc
    | false =>
      rw [collapseBlanks_cons hd] at hc
      obtain rfl : d = c := by simpa using hc
      exact hd

theorem spaced_collapseBlanks (cs : List Char) : Spaced (collapseBlanks cs) := by
  induction cs with
  | nil => exact ⟨.nil, by simp [collapseBlanks]⟩
  | cons c cs ih =>
    cases hc : isBlank c with
    | true => rwa [collapseBlanks_blank hc]
    | false =>
      rw [collapseBlanks_cons hc, spaced_cons]
      refine ⟨?_, by simp [hc]⟩
      split
      · rw [spaced_cons]
        exact ⟨ih, fun _ => ⟨rfl, head_collapseBlanks⟩⟩
      · exact ih

theorem mem_collapseBlanks {cs : List Char} {c : Char} (h : c ∈ collapseBlanks cs) :
    c = ' ' ∨ c ∈ cs := by
  induction cs with
  | nil => simp [collapseBlanks] at h
  | cons d ds ih =>
    cases hd : isBlank d with
    | true =>
      rw [collapseBlanks_blank hd] at h
      exact (ih h).imp_right (List.mem_cons_of_mem d)
    | false =>
      rw [collapseBlanks_cons hd] at h
      have hcase : c = d ∨ c = ' ' ∨ c ∈ collapseBlanks ds := by
        split at h
        · simpa using h
        · exact (List.mem_cons.mp h).imp_right .inr
      rcases hcase with rfl | rfl | h
      · exact .inr (by simp)
      · exact .inl rfl
      · exact (ih h).imp_right (List.mem_cons_of_mem d)

/-- Spaced text loses at most a leading space, unless it ends in one. -/
theorem collapseBlanks_eq_skipBlank {cs : List Char} (h : Spaced cs)
    (hlast : ∀ c ∈ cs.getLast?, isBlank c = false) : collapseBlanks cs = skipBlank cs := by
  induction cs with
  | nil => rfl
  | cons c cs ih =>
    obtain ⟨hcs, -⟩ := spaced_cons.mp h
    have ih := ih hcs (fun d hd => hlast d (List.mem_getLast?_cons hd))
    cases hc : isBlank c with
    | true =>
      rw [collapseBlanks_blank hc, ih, skipBlank_blank hc]
    | false =>
      rw [collapseBlanks_cons hc, ih, skipBlank_cons hc]
      -- What follows is nothing, another character of the word, or one space and the next word.
      rcases cs with _ | ⟨d, cs⟩
      · simp
      · cases hd : isBlank d with
        | false => simp [wordEnds, hd]
        | true =>
          obtain ⟨rfl, hhead⟩ := (spaced_cons.mp hcs).2 hd
          rcases cs with _ | ⟨e, cs⟩
          · simp [hd] at hlast
          · have he : isBlank e = false := hhead e rfl
            have hwords : words (' ' :: e :: cs) ≠ [] := by
              rw [words_blank _ hd]
              exact words_ne_nil he cs
            rw [if_pos ⟨hd, hwords⟩, skipBlank_blank hd, skipBlank_cons he]

/-! ## Writing pairs of colons as dots -/

/-- No two colons stand side by side. -/
def Unpaired (cs : List Char) : Prop := cs.IsChain fun a b => a = ':' → b ≠ ':'

theorem head_dotPairs {cs : List Char} {c : Char} (h : c ∈ (dotPairs cs).head?) :
    c = '.' ∨ c ∈ cs.head? := by
  fun_cases dotPairs cs with
  | case1 cs => exact .inl (by simpa [dotPairs] using h.symm)
  | case2 d cs hpair => exact .inr (by simpa [dotPairs, hpair] using h)
  | case3 => simp [dotPairs] at h

theorem unpaired_dotPairs (cs : List Char) : Unpaired (dotPairs cs) := by
  fun_induction dotPairs cs with
  | case1 cs ih => exact ih.cons (by simp)
  | case2 c cs hpair ih =>
    refine ih.cons ?_
    rintro d hd rfl rfl
    rcases head_dotPairs hd with hd | hd
    · simp at hd
    · obtain ⟨ds, rfl⟩ := List.head?_eq_some_iff.mp hd
      exact hpair ds rfl rfl
  | case3 => exact .nil

theorem Spaced.dotPairs {cs : List Char} (h : Spaced cs) : Spaced (dotPairs cs) := by
  fun_induction Text.dotPairs cs with
  | case1 cs ih =>
    rw [spaced_cons] at h ⊢
    exact ⟨ih (spaced_cons.mp h.1).1, fun hdot => absurd hdot (by decide)⟩
  | case2 c cs hpair ih =>
    rw [spaced_cons] at h ⊢
    refine ⟨ih h.1, ?_⟩
    intro hc
    refine ⟨(h.2 hc).1, ?_⟩
    intro d hd
    rcases head_dotPairs hd with rfl | hd
    · decide
    · exact (h.2 hc).2 d hd
  | case3 => exact h

theorem dotPairs_eq_self {cs : List Char} (h : Unpaired cs) : dotPairs cs = cs := by
  fun_induction dotPairs cs with
  | case1 cs ih => exact absurd rfl (h.rel_head? rfl rfl)
  | case2 c cs hpair ih => rw [ih h.tail]
  | case3 => rfl

theorem mem_dotPairs {cs : List Char} {c : Char} (h : c ∈ dotPairs cs) : c = '.' ∨ c ∈ cs := by
  fun_induction dotPairs cs with
  | case1 cs ih =>
    rcases List.mem_cons.mp h with rfl | h
    · exact .inl rfl
    · exact (ih h).imp_right (by simp +contextual)
  | case2 d cs hpair ih =>
    rcases List.mem_cons.mp h with rfl | h
    · simp
    · exact (ih h).imp_right (List.mem_cons_of_mem d)
  | case3 => simp at h

/-! ## Cutting at a separator -/

theorem splitAt_eq_splitOn (separator : Char) (cs : List Char) :
    splitAt separator cs = cs.splitOn separator := by
  induction cs with
  | nil => rfl
  | cons c cs ih =>
    rw [splitAt, List.splitOn_cons_eq_if_modifyHead, ih]
    obtain ⟨part, parts, hparts⟩ :=
      List.exists_cons_of_ne_nil (List.splitOn_ne_nil separator cs)
    simp [hparts]

theorem splitAt_joinWith {separator : Char} {parts : List (List Char)} (hne : parts ≠ [])
    (h : ∀ part ∈ parts, separator ∉ part) :
    splitAt separator (joinWith separator parts) = parts := by
  rw [splitAt_eq_splitOn, joinWith, List.splitOn_intercalate separator h hne]

theorem not_mem_of_mem_splitAt {separator : Char} {part cs : List Char}
    (h : part ∈ splitAt separator cs) : separator ∉ part := by
  induction cs generalizing part with
  | nil =>
    obtain rfl : part = [] := by simpa using h
    simp
  | cons c cs ih =>
    rw [splitAt] at h
    split at h
    · rcases List.mem_cons.mp h with rfl | h
      · simp
      · exact ih h
    · rename_i hc
      obtain ⟨first, rest, hparts⟩ := List.exists_cons_of_ne_nil (splitAt_ne_nil separator cs)
      simp only [hparts, List.mem_cons] at h ih
      rcases h with rfl | h
      · simp [Ne.symm hc, ih (.inl rfl)]
      · exact ih (.inr h)

theorem joinWith_cons_cons (separator : Char) (s t : List Char) (ss : List (List Char)) :
    joinWith separator (s :: t :: ss) = s ++ separator :: joinWith separator (t :: ss) := by
  simp [joinWith]

theorem part_of_mem_splitAt {separator : Char} {part cs : List Char}
    (h : part ∈ splitAt separator cs) : part <:+: cs := by
  rw [← joinWith_splitAt separator cs]
  generalize splitAt separator cs = parts at h
  induction parts with
  | nil => simp at h
  | cons first rest ih =>
    rcases rest with _ | ⟨next, rest⟩
    · obtain rfl : part = first := by simpa using h
      simp [joinWith]
    · rw [joinWith_cons_cons]
      rcases List.mem_cons.mp h with rfl | h
      · exact (List.prefix_append _ _).isInfix
      · exact (ih h).trans ((List.suffix_cons _ _).trans (List.suffix_append _ _)).isInfix

theorem joinWith_concat (separator : Char) {parts : List (List Char)} (hne : parts ≠ [])
    (last : List Char) :
    joinWith separator (parts ++ [last]) = joinWith separator parts ++ separator :: last := by
  induction parts with
  | nil => exact absurd rfl hne
  | cons part parts ih =>
    rcases parts with _ | ⟨next, parts⟩
    · simp [joinWith]
    · rw [List.cons_append, List.cons_append, joinWith_cons_cons, ← List.cons_append,
        ih (by simp), joinWith_cons_cons, List.append_assoc, List.cons_append]

theorem splitLast_eq_none {separator : Char} {cs : List Char} (h : separator ∉ cs) :
    splitLast separator cs = none := by
  induction cs with
  | nil => rfl
  | cons c cs ih =>
    simp only [List.mem_cons, not_or] at h
    rw [splitLast, ih h.2]
    exact if_neg (Ne.symm h.1)

theorem splitLast_append_cons {separator : Char} (front : List Char) {back : List Char}
    (h : separator ∉ back) :
    splitLast separator (front ++ separator :: back) = some (front, back) := by
  induction front with
  | nil =>
    rw [List.nil_append, splitLast, splitLast_eq_none h]
    exact if_pos rfl
  | cons c front ih => rw [List.cons_append, splitLast, ih]

/-! ## Trimming -/

theorem trimEnd_eq_rdropWhile (cs : List Char) : trimEnd cs = cs.rdropWhile isBlank := rfl

theorem trim_start (cs : List Char) : trim cs <+: skipBlank cs :=
  List.rdropWhile_prefix isBlank (skipBlank cs)

theorem trim_part (cs : List Char) : trim cs <:+: cs :=
  (trim_start cs).isInfix.trans (List.dropWhile_suffix isBlank).isInfix

theorem head_trim {cs : List Char} : ∀ c ∈ (trim cs).head?, isBlank c = false := by
  intro c hc
  obtain ⟨rest, hrest⟩ := List.head?_eq_some_iff.mp hc
  obtain ⟨more, hmore⟩ := trim_start cs
  rw [hrest, List.cons_append] at hmore
  exact isBlank_head_skipBlank hmore.symm

theorem getLast_trim {cs : List Char} : ∀ c ∈ (trim cs).getLast?, isBlank c = false := by
  intro c hc
  obtain ⟨hne, rfl⟩ := List.mem_getLast?_eq_getLast hc
  exact Bool.eq_false_iff.mpr (List.rdropWhile_last_not isBlank (skipBlank cs) hne)

theorem skipBlank_eq_self {cs : List Char} (h : ∀ c ∈ cs.head?, isBlank c = false) :
    skipBlank cs = cs := by
  cases cs with
  | nil => rfl
  | cons c cs => exact skipBlank_cons (h c rfl) cs

theorem trim_eq_self {cs : List Char} (hhead : ∀ c ∈ cs.head?, isBlank c = false)
    (hlast : ∀ c ∈ cs.getLast?, isBlank c = false) : trim cs = cs := by
  rw [trim, skipBlank_eq_self hhead, trimEnd_eq_rdropWhile, List.rdropWhile_eq_self_iff]
  intro hne
  simp [hlast _ (List.getLast_mem_getLast? hne)]

end Text

namespace TypeName

open Text

/-! ## Segments -/

/-- A part of a normalised path. -/
structure Segment (cs : List Char) : Prop where
  spaced : Spaced cs
  unpaired : Unpaired cs
  no_dot : '.' ∉ cs
  no_delimiter : ∀ c ∈ cs, isDelimiter c = false
  head : ∀ c ∈ cs.head?, isBlank c = false
  last : ∀ c ∈ cs.getLast?, isBlank c = false

theorem Segment.trim {cs : List Char} (h : Segment cs) : trim cs = cs := trim_eq_self h.head h.last

theorem segment_of_mem_normalizePath {raw part : List Char}
    (hraw : ∀ c ∈ raw, isDelimiter c = false)
    (h : part ∈ (splitAt '.' (dotPairs (collapseBlanks raw))).map Text.trim) : Segment part := by
  obtain ⟨cs, hcs, rfl⟩ := List.mem_map.mp h
  have hpart : Text.trim cs <:+: dotPairs (collapseBlanks raw) :=
    (trim_part cs).trans (part_of_mem_splitAt hcs)
  refine ⟨(spaced_collapseBlanks raw).dotPairs.of_part hpart, ?_, ?_, ?_, head_trim, getLast_trim⟩
  · exact List.IsChain.infix (unpaired_dotPairs (collapseBlanks raw)) hpart
  · intro hdot
    exact not_mem_of_mem_splitAt hcs ((trim_part cs).subset hdot)
  · intro c hc
    rcases mem_dotPairs (hpart.subset hc) with rfl | hc
    · rfl
    · rcases mem_collapseBlanks hc with rfl | hc
      · rfl
      · exact hraw c hc

/-- A path without delimiters normalises to segments with dots between them. -/
theorem exists_segments_normalizePath {raw : List Char} (hraw : ∀ c ∈ raw, isDelimiter c = false) :
    ∃ segments, segments ≠ [] ∧ (∀ s ∈ segments, Segment s) ∧
      normalizePath raw = joinWith '.' segments := by
  refine ⟨(splitAt '.' (dotPairs (collapseBlanks raw))).map Text.trim, ?_, ?_, rfl⟩
  · simpa using splitAt_ne_nil '.' (dotPairs (collapseBlanks raw))
  · intro s hs
    exact segment_of_mem_normalizePath hraw hs

section Join

variable {segments : List (List Char)}

/-- A dot breaks every chain that it may stand in. -/
theorem isChain_joinWith {R : Char → Char → Prop} (hleft : ∀ c, R c '.') (hright : ∀ c, R '.' c)
    (h : ∀ s ∈ segments, s.IsChain R) : (joinWith '.' segments).IsChain R := by
  induction segments with
  | nil => exact .nil
  | cons s ss ih =>
    rcases ss with _ | ⟨t, ss⟩
    · simpa [joinWith] using h s (by simp)
    · rw [joinWith_cons_cons]
      refine (h s (by simp)).append ((ih ?_).cons ?_) ?_
      · intro u hu
        exact h u (List.mem_cons_of_mem s hu)
      · intro c _
        exact hright c
      · rintro a - b hb
        obtain rfl : '.' = b := by simpa using hb
        exact hleft a

theorem mem_joinWith {c : Char} (h : c ∈ joinWith '.' segments) :
    c = '.' ∨ ∃ s ∈ segments, c ∈ s := by
  induction segments with
  | nil => simp [joinWith] at h
  | cons s ss ih =>
    rcases ss with _ | ⟨t, ss⟩
    · exact .inr ⟨s, by simp, by simpa [joinWith] using h⟩
    · rw [joinWith_cons_cons, List.mem_append, List.mem_cons] at h
      rcases h with h | h | h
      · exact .inr ⟨s, by simp, h⟩
      · exact .inl h
      · refine (ih h).imp_right ?_
        rintro ⟨u, hu, hc⟩
        exact ⟨u, List.mem_cons_of_mem s hu, hc⟩

theorem head_joinWith (h : ∀ s ∈ segments, ∀ c ∈ s.head?, isBlank c = false) :
    ∀ c ∈ (joinWith '.' segments).head?, isBlank c = false := by
  intro c hc
  rcases segments with _ | ⟨s, _ | ⟨t, ss⟩⟩
  · simp [joinWith] at hc
  · exact h s (by simp) c (by simpa [joinWith] using hc)
  · rw [joinWith_cons_cons] at hc
    rcases s with _ | ⟨d, ds⟩
    · obtain rfl : '.' = c := by simpa using hc
      decide
    · exact h (d :: ds) (by simp) c (by simpa using hc)

theorem getLast_joinWith (h : ∀ s ∈ segments, ∀ c ∈ s.getLast?, isBlank c = false) :
    ∀ c ∈ (joinWith '.' segments).getLast?, isBlank c = false := by
  induction segments with
  | nil => simp [joinWith]
  | cons s ss ih =>
    rcases ss with _ | ⟨t, ss⟩
    · simpa [joinWith] using h s (by simp)
    · intro c hc
      rw [joinWith_cons_cons, List.getLast?_append_cons, List.getLast?_cons] at hc
      cases hlast : (joinWith '.' (t :: ss)).getLast? with
      | none =>
        obtain rfl : '.' = c := by simpa [hlast] using hc
        decide
      | some d =>
        obtain rfl : d = c := by simpa [hlast] using hc
        exact ih (fun u hu => h u (List.mem_cons_of_mem s hu)) d hlast

theorem normalizePath_joinWith (hne : segments ≠ []) (h : ∀ s ∈ segments, Segment s) :
    normalizePath (joinWith '.' segments) = joinWith '.' segments := by
  have hspaced : Spaced (joinWith '.' segments) := by
    refine ⟨isChain_joinWith ?_ ?_ fun s hs => (h s hs).spaced.apart, ?_⟩
    · intro c _
      rfl
    · intro c hdot
      exact absurd hdot (by decide)
    · intro c hc hblank
      rcases mem_joinWith hc with rfl | ⟨s, hs, hc⟩
      · exact absurd hblank (by decide)
      · exact (h s hs).spaced.eq_space c hc hblank
  have hunpaired : Unpaired (joinWith '.' segments) := by
    refine isChain_joinWith ?_ ?_ fun s hs => (h s hs).unpaired
    · simp
    · simp
  have hcollapse : collapseBlanks (joinWith '.' segments) = joinWith '.' segments := by
    rw [collapseBlanks_eq_skipBlank hspaced (getLast_joinWith fun s hs => (h s hs).last)]
    exact skipBlank_eq_self (head_joinWith fun s hs => (h s hs).head)
  rw [normalizePath, hcollapse, dotPairs_eq_self hunpaired,
    splitAt_joinWith hne fun s hs => (h s hs).no_dot]
  congr 1
  exact (List.map_congr_left fun s hs => (h s hs).trim).trans (List.map_id segments)

end Join

theorem splitPath_joinWith (qualifiers : List (List Char)) {name : List Char} (h : '.' ∉ name) :
    splitPath (joinWith '.' (qualifiers ++ [name])) = (joinWith '.' qualifiers, name) := by
  rcases qualifiers with _ | ⟨q, qs⟩
  · simp [splitPath, joinWith, splitLast_eq_none h]
  · rw [splitPath, joinWith_concat '.' (by simp), splitLast_append_cons _ h, Option.getD_some]

/-- A type made of a normalised path has segments in its qualifier, and one as its name. -/
theorem ofPath_eq_some {raw : List Char} (hraw : ∀ c ∈ raw, isDelimiter c = false)
    {args : List TypeName} {type : TypeName} (h : ofPath? (normalizePath raw) args = some type) :
    ∃ qualifiers name, (∀ q ∈ qualifiers, Segment q) ∧ Segment name ∧ name ≠ [] ∧
      type = ⟨String.ofList (joinWith '.' qualifiers), String.ofList name, args⟩ := by
  obtain ⟨segments, hne, hsegments, hpath⟩ := exists_segments_normalizePath hraw
  obtain ⟨qualifiers, name, rfl⟩ := List.eq_nil_or_concat' segments |>.resolve_left hne
  have hname : Segment name := hsegments name (by simp)
  rw [hpath, ofPath?, splitPath_joinWith qualifiers hname.no_dot] at h
  dsimp only at h
  split at h
  · simp at h
  · rename_i hempty
    refine ⟨qualifiers, name, ?_, hname, by simpa using hempty, by simpa using h.symm⟩
    intro q hq
    exact hsegments q (by simp [hq])

end TypeName

end DeclTree

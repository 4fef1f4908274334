import DeclTree.Proofs.TypeName.Grammar
import DeclTree.Query.Run

/-!
# Spellings of a type

Between the segments of a path stand dots or pairs of colons, a blank in a segment may be any run of
blanks, blanks may stand around every sign, a tuple may be written in parentheses, and an empty list
of arguments may be left out. However these choices are made, at every place on its own, the text is
read as the same type.

Normalising undoes the choices of a path: whether blanks are collapsed in the whole path or in each
segment is the same, since collapsing leaves the pairs of colons alone and trimming takes what is
left beside a dot. The grammar of type names takes care of the rest.
-/

open DeclTree.Text

namespace DeclTree

namespace Text

/-! ## Blanks around and inside words -/

theorem wordEnds_append_blanks (cs : List Char) {back : List Char}
    (hback : ∀ c ∈ back, isBlank c = true) : wordEnds (cs ++ back) = wordEnds cs := by
  cases cs with
  | cons c cs => rfl
  | nil =>
    cases back with
    | nil => rfl
    | cons c back => exact hback c (by simp)

theorem words_blanks_append {front : List Char} (hfront : ∀ c ∈ front, isBlank c = true)
    (cs : List Char) : words (front ++ cs) = words cs := by
  induction front with
  | nil => rfl
  | cons c front ih =>
    rw [List.cons_append, words_blank _ (hfront c (by simp))]
    exact ih fun d hd => hfront d (by simp [hd])

theorem words_append_blanks (cs : List Char) {back : List Char}
    (hback : ∀ c ∈ back, isBlank c = true) : words (cs ++ back) = words cs := by
  induction cs with
  | nil =>
    have hnone := words_blanks_append hback []
    rwa [List.append_nil] at hnone
  | cons c cs ih =>
    rw [List.cons_append, words, words, ih, wordEnds_append_blanks cs hback]

theorem wordEnds_dotPairs (cs : List Char) : wordEnds (dotPairs cs) = wordEnds cs := by
  fun_cases dotPairs cs with
  | case1 cs => rfl
  | case2 c cs hpair => rfl
  | case3 => rfl

theorem words_eq_nil_iff {cs : List Char} : words cs = [] ↔ ∀ c ∈ cs, isBlank c = true := by
  induction cs with
  | nil => simp
  | cons c cs ih =>
    cases hc : isBlank c with
    | true => simp [words_blank cs hc, ih, hc]
    | false => simp [words_ne_nil hc cs, hc]

theorem isBlank_of_mem_dotPairs {cs : List Char} :
    (∀ c ∈ dotPairs cs, isBlank c = true) ↔ ∀ c ∈ cs, isBlank c = true := by
  fun_induction dotPairs cs with
  | case1 cs ih => simp [isBlank]
  | case2 c cs hpair ih => simp [ih]
  | case3 => rfl

theorem collapseBlanks_of_words {cs : List Char} (h : words cs = []) : collapseBlanks cs = [] := by
  rw [collapseBlanks, h]
  rfl

theorem words_of_collapseBlanks {cs : List Char} (h : collapseBlanks cs = []) : words cs = [] := by
  rw [words_eq_nil_iff]
  induction cs with
  | nil => simp
  | cons c cs ih =>
    cases hc : isBlank c with
    | true =>
      rw [collapseBlanks_blank hc] at h
      simpa [hc] using ih h
    | false =>
      rw [collapseBlanks_cons hc] at h
      simp at h

theorem dotPairs_cons {c : Char} {cs : List Char} (h : c = ':' → cs.head? ≠ some ':') :
    dotPairs (c :: cs) = c :: dotPairs cs := by
  rw [dotPairs]
  rintro ds rfl rfl
  exact h rfl rfl

/-- Collapsing blanks neither parts colons that stand side by side nor brings colons together. -/
theorem dotPairs_collapseBlanks (cs : List Char) :
    dotPairs (collapseBlanks cs) = collapseBlanks (dotPairs cs) := by
  have hsame : ∀ ds : List Char, (wordEnds (dotPairs ds) = true ∧ words (dotPairs ds) ≠ []) ↔
      (wordEnds ds = true ∧ words ds ≠ []) := by
    intro ds
    rw [wordEnds_dotPairs, ne_eq, ne_eq, words_eq_nil_iff, words_eq_nil_iff,
      isBlank_of_mem_dotPairs]
  have hspace : ∀ ds, dotPairs (' ' :: ds) = ' ' :: dotPairs ds :=
    fun ds => dotPairs_cons (by simp)
  fun_induction dotPairs cs with
  | case1 cs ih =>
    rw [collapseBlanks_cons (by decide), collapseBlanks_cons (by decide),
      collapseBlanks_cons (by decide), if_neg (by simp [wordEnds, isBlank]), dotPairs, ← ih]
    simp only [hsame]
    split
    · rw [hspace]
    · rfl
  | case2 c cs hpair ih =>
    cases hc : isBlank c with
    | true => rw [collapseBlanks_blank hc, collapseBlanks_blank hc, ih]
    | false =>
      rw [collapseBlanks_cons hc, collapseBlanks_cons hc, ← ih]
      simp only [hsame]
      split
      · rw [dotPairs_cons (by simp), hspace]
      · rename_i hjoined
        refine dotPairs_cons ?_
        intro hcolon hhead
        -- A second colon at the front of what is collapsed stood at the front before.
        cases cs with
        | nil => simp [collapseBlanks] at hhead
        | cons d cs =>
          cases hd : isBlank d with
          | true =>
            have hwords : words (d :: cs) = [] := by simpa [wordEnds, hd] using hjoined
            simp [collapseBlanks_of_words hwords] at hhead
          | false =>
            rw [collapseBlanks_cons hd] at hhead
            obtain rfl : d = ':' := by simpa using hhead
            exact hpair cs hcolon rfl
  | case3 => rfl

theorem splitAt_cons {separator c : Char} (hc : c ≠ separator) (cs : List Char) :
    splitAt separator (c :: cs) = (splitAt separator cs).modifyHead (c :: ·) := by
  obtain ⟨part, parts, hparts⟩ := List.exists_cons_of_ne_nil (splitAt_ne_nil separator cs)
  rw [splitAt, if_neg hc, hparts, List.modifyHead_cons]

theorem trim_blank {c : Char} (hc : isBlank c = true) (cs : List Char) :
    trim (c :: cs) = trim cs := by
  rw [trim, trim, skipBlank_blank hc]

theorem trimEnd_cons (c : Char) (cs : List Char) :
    trimEnd (c :: cs) = if trimEnd cs = [] ∧ isBlank c = true then [] else c :: trimEnd cs := by
  unfold trimEnd
  rw [List.reverse_cons, List.dropWhile_append]
  by_cases hempty : cs.reverse.dropWhile isBlank = []
  · cases hc : isBlank c <;> simp [hempty, hc]
  · simp [hempty]

/-- Without a blank in front, trimming leaves the first character and trims what follows. -/
theorem trim_cons {c : Char} (hc : isBlank c = false) (cs : List Char) :
    trim (c :: cs) = c :: trimEnd cs := by
  rw [trim, skipBlank_cons hc, trimEnd_cons, if_neg (by simp [hc])]

theorem start_of_splitAt {separator : Char} {cs part : List Char} {parts : List (List Char)}
    (h : splitAt separator cs = part :: parts) : part <+: cs := by
  have hjoin := joinWith_splitAt separator cs
  rw [h] at hjoin
  rw [← hjoin]
  cases parts with
  | nil => simp [joinWith]
  | cons next parts =>
    rw [joinWith_cons_cons]
    exact List.prefix_append part _

/-- The parts of a text before its first separator and of what is left of it when its blanks are
collapsed begin alike, and a character in front of them is parted from them alike. -/
theorem trim_cons_collapsed {c : Char} (hc : isBlank c = false) {cs part first : List Char}
    (hstart : part <+: cs) (hfirst : first <+: collapseBlanks cs)
    (htrim : trim first = collapseBlanks part) :
    trim (c :: if wordEnds cs = true ∧ words cs ≠ [] then ' ' :: first else first) =
      collapseBlanks (c :: part) := by
  have hhead : ∀ d ∈ first.head?, isBlank d = false := by
    intro d hd
    obtain ⟨more, hmore⟩ := hfirst
    have hcollapsed : d ∈ (collapseBlanks cs).head? := by
      rw [← hmore]
      exact List.mem_head?_append_of_mem_head? hd
    exact head_collapseBlanks d hcollapsed
  rw [trim, skipBlank_eq_self hhead] at htrim
  rw [trim_cons hc, collapseBlanks_cons hc, ← htrim]
  congr 1
  by_cases hwords : words part = []
  · have hnone : trimEnd first = [] := by rw [htrim, collapseBlanks_of_words hwords]
    have hjoined : ¬ (wordEnds part = true ∧ words part ≠ []) := fun h => h.2 hwords
    rw [if_neg hjoined]
    split
    · rw [trimEnd_cons, if_pos ⟨hnone, by decide⟩, hnone]
    · rfl
  · have hsome : trimEnd first ≠ [] := by
      rw [htrim]
      exact fun h => hwords (words_of_collapseBlanks h)
    obtain ⟨more, rfl⟩ := hstart
    have hends : wordEnds (part ++ more) = wordEnds part := by
      cases part with
      | nil => exact absurd rfl hwords
      | cons d part => rfl
    have hmore : words (part ++ more) ≠ [] := by
      rw [words_eq_nil_iff] at hwords
      rw [ne_eq, words_eq_nil_iff]
      exact fun h => hwords fun d hd => h d (by simp [hd])
    rw [hends]
    split
    · rename_i hgap
      rw [if_pos ⟨hgap.1, hwords⟩, trimEnd_cons, if_neg (by simp [hsome])]
    · rename_i hgap
      rw [if_neg (fun h => hgap ⟨h.1, hmore⟩)]

/-- Whether blanks are collapsed in the whole text or in each of its parts makes no difference once
the parts are trimmed. -/
theorem map_trim_splitAt_collapseBlanks (cs : List Char) :
    (splitAt '.' (collapseBlanks cs)).map trim = (splitAt '.' cs).map collapseBlanks := by
  induction cs with
  | nil => simp [collapseBlanks, trim, trimEnd]
  | cons c cs ih =>
    obtain ⟨part, parts, hparts⟩ := List.exists_cons_of_ne_nil (splitAt_ne_nil '.' cs)
    obtain ⟨first, others, hfirst⟩ :=
      List.exists_cons_of_ne_nil (splitAt_ne_nil '.' (collapseBlanks cs))
    have hspace : splitAt '.' (' ' :: collapseBlanks cs) = (' ' :: first) :: others := by
      rw [splitAt_cons (by decide), hfirst, List.modifyHead_cons]
    rw [hparts, hfirst, List.map_cons, List.map_cons, List.cons.injEq] at ih
    by_cases hdot : c = '.'
    · subst hdot
      rw [collapseBlanks_cons (by decide), splitAt, splitAt, if_pos rfl, if_pos rfl, hparts]
      have hnone : trim [] = collapseBlanks [] := rfl
      split
      · rw [hspace, List.map_cons, List.map_cons, trim_blank (by decide), ih.1, ih.2, hnone]
        rfl
      · rw [hfirst, List.map_cons, List.map_cons, ih.1, ih.2, hnone]
        rfl
    · rw [splitAt_cons hdot, hparts, List.modifyHead_cons, List.map_cons]
      cases hc : isBlank c with
      | true =>
        rw [collapseBlanks_blank hc, collapseBlanks_blank hc, hfirst, List.map_cons, ih.1, ih.2]
      | false =>
        rw [← trim_cons_collapsed hc (start_of_splitAt hparts) (start_of_splitAt hfirst) ih.1,
          ← ih.2, collapseBlanks_cons hc, splitAt_cons hdot]
        split
        · rw [hspace, List.modifyHead_cons, List.map_cons]
        · rw [hfirst, List.modifyHead_cons, List.map_cons]

theorem dotPairs_append {cs : List Char} (h : ':' ∉ cs) (rest : List Char) :
    dotPairs (cs ++ rest) = cs ++ dotPairs rest := by
  induction cs with
  | nil => rfl
  | cons c cs ih =>
    simp only [List.mem_cons, not_or] at h
    rw [List.cons_append, dotPairs_cons fun hc => absurd hc.symm h.1, ih h.2, List.cons_append]

theorem splitAt_append_cons {separator : Char} {part : List Char} (h : separator ∉ part)
    (rest : List Char) :
    splitAt separator (part ++ separator :: rest) = part :: splitAt separator rest := by
  induction part with
  | nil => rw [List.nil_append, splitAt, if_pos rfl]
  | cons c part ih =>
    simp only [List.mem_cons, not_or] at h
    rw [List.cons_append, splitAt_cons (Ne.symm h.1), ih h.2, List.modifyHead_cons]

end Text

namespace TypeName

/-- A path may be normalised part by part. -/
theorem normalizePath_eq (raw : List Char) :
    normalizePath raw = joinWith '.' ((splitAt '.' (dotPairs raw)).map collapseBlanks) := by
  rw [normalizePath, dotPairs_collapseBlanks, map_trim_splitAt_collapseBlanks]

theorem normalizePath_blanks_append {front : List Char} (hfront : Blanks front) (raw : List Char) :
    normalizePath (front ++ raw) = normalizePath raw := by
  rw [normalizePath, collapseBlanks, words_blanks_append hfront]
  rfl

/-! ## Plain types and their spellings -/

/-- A segment of a path that is not empty and holds no colon. -/
structure PlainSegment (cs : List Char) : Prop extends Segment cs where
  ne_nil : cs ≠ []
  no_colon : ':' ∉ cs

/-- A type whose path is made of plain segments, and so on in its arguments. -/
inductive Plain : TypeName → Prop
  | mk {qualifiers : List (List Char)} {name : List Char} {args : List TypeName}
      (qualifiers_plain : ∀ q ∈ qualifiers, PlainSegment q) (name_plain : PlainSegment name)
      (args_plain : ∀ a ∈ args, Plain a) :
      Plain ⟨.ofList (joinWith '.' qualifiers), .ofList name, args⟩

/-- The parts of a path between its dots. -/
def segments (qualifier name : String) : List (List Char) :=
  (if qualifier.isEmpty then [] else splitAt '.' qualifier.toList) ++ [name.toList]

/-- The second text is the first with a run of blanks for each blank. -/
inductive Widened : List Char → List Char → Prop
  | nil : Widened [] []
  | keep {c : Char} {cs wide : List Char} (not_blank : isBlank c = false)
      (rest : Widened cs wide) : Widened (c :: cs) (c :: wide)
  | widen {c : Char} {cs blanks wide : List Char} (blank : isBlank c = true) (run : Blanks blanks)
      (ne_nil : blanks ≠ []) (rest : Widened cs wide) : Widened (c :: cs) (blanks ++ wide)

/-- The text is the segment with wider blanks in it and blanks around it. -/
inductive PartSpelling (segment : List Char) : List Char → Prop
  | mk {front wide back : List Char} (front_blanks : Blanks front) (body : Widened segment wide)
      (back_blanks : Blanks back) : PartSpelling segment (front ++ (wide ++ back))

/-- The text has the segments in order, with dots or pairs of colons between them. -/
inductive PathSpelling : List (List Char) → List Char → Prop
  | last {segment part : List Char} (spelt : PartSpelling segment part) :
      PathSpelling [segment] part
  | dot {segment part rest : List Char} {others : List (List Char)}
      (spelt : PartSpelling segment part) (more : PathSpelling others rest) :
      PathSpelling (segment :: others) (part ++ '.' :: rest)
  | colons {segment part rest : List Char} {others : List (List Char)}
      (spelt : PartSpelling segment part) (more : PathSpelling others rest) :
      PathSpelling (segment :: others) (part ++ ':' :: ':' :: rest)

mutual

/-- The ways to write a type. A tuple may be written in parentheses, and a type without arguments
with an empty list of them. -/
inductive Spelling : TypeName → List Char → Prop
  | bare {qualifier name : String} {raw : List Char}
      (path : PathSpelling (segments qualifier name) raw) : Spelling ⟨qualifier, name, []⟩ raw
  | applied {qualifier name : String} {args : List TypeName} {raw inner back : List Char}
      (path : PathSpelling (segments qualifier name) raw) (list : ListSpelling args inner)
      (back_blanks : Blanks back) :
      Spelling ⟨qualifier, name, args⟩ (raw ++ '<' :: (inner ++ '>' :: back))
  | tuple {args : List TypeName} {front inner back : List Char} (front_blanks : Blanks front)
      (list : ListSpelling args inner) (back_blanks : Blanks back) :
      Spelling (tuple args) (front ++ '(' :: (inner ++ ')' :: back))

/-- The ways to write a list of types between its brackets. -/
inductive ListSpelling : List TypeName → List Char → Prop
  | none {blanks : List Char} (between : Blanks blanks) : ListSpelling [] blanks
  | one {type : TypeName} {text : List Char} (spelt : Spelling type text) :
      ListSpelling [type] text
  | more {type next : TypeName} {types : List TypeName} {text inner : List Char}
      (spelt : Spelling type text) (rest : ListSpelling (next :: types) inner) :
      ListSpelling (type :: next :: types) (text ++ ',' :: inner)

end

/-! ## The path that a spelling normalises to -/

theorem Widened.refl (cs : List Char) : Widened cs cs := by
  induction cs with
  | nil => exact .nil
  | cons c cs ih =>
    cases hc : isBlank c with
    | true => exact @Widened.widen c cs [c] cs hc (by simp [Blanks, hc]) (by simp) ih
    | false => exact .keep hc ih

theorem Widened.append {cs cs' wide wide' : List Char} (h : Widened cs wide)
    (h' : Widened cs' wide') : Widened (cs ++ cs') (wide ++ wide') := by
  induction h with
  | nil => exact h'
  | keep hc _ ih => exact .keep hc ih
  | widen hc run hne _ ih =>
    rw [List.append_assoc]
    exact .widen hc run hne ih

theorem Widened.words_eq {cs wide : List Char} (h : Widened cs wide) :
    words wide = words cs ∧ wordEnds wide = wordEnds cs := by
  induction h with
  | nil => exact ⟨rfl, rfl⟩
  | @keep c cs wide hc _ ih =>
    refine ⟨?_, rfl⟩
    rw [words, words, ih.1, ih.2]
  | @widen c cs blanks wide hc run hne _ ih =>
    obtain ⟨d, blanks, rfl⟩ := List.exists_cons_of_ne_nil hne
    have hd : isBlank d = true := run d (by simp)
    refine ⟨?_, hd.trans hc.symm⟩
    rw [words_blanks_append run, words_blank cs hc, ih.1]

theorem Widened.mem {cs wide : List Char} (h : Widened cs wide) {c : Char} (hc : c ∈ wide) :
    isBlank c = true ∨ c ∈ cs := by
  induction h with
  | nil => simp at hc
  | keep _ _ ih =>
    rcases List.mem_cons.mp hc with rfl | hc
    · exact .inr (by simp)
    · exact (ih hc).imp_right (List.mem_cons_of_mem _)
  | widen _ run _ _ ih =>
    rcases List.mem_append.mp hc with hc | hc
    · exact .inl (run c hc)
    · exact (ih hc).imp_right (List.mem_cons_of_mem _)

section Part

variable {segment part : List Char}

theorem PlainSegment.collapseBlanks_eq (h : PlainSegment segment) :
    collapseBlanks segment = segment := by
  rw [collapseBlanks_eq_skipBlank h.spaced h.last, skipBlank_eq_self h.head]

theorem PartSpelling.collapseBlanks_eq (h : PartSpelling segment part)
    (hplain : PlainSegment segment) : collapseBlanks part = segment := by
  obtain ⟨hfront, body, hback⟩ := h
  rw [collapseBlanks, words_blanks_append hfront, words_append_blanks _ hback, body.words_eq.1]
  exact hplain.collapseBlanks_eq

theorem PartSpelling.mem (h : PartSpelling segment part) {c : Char} (hc : c ∈ part) :
    isBlank c = true ∨ c ∈ segment := by
  obtain ⟨hfront, body, hback⟩ := h
  rcases List.mem_append.mp hc with hc | hc
  · exact .inl (hfront c hc)
  rcases List.mem_append.mp hc with hc | hc
  · exact body.mem hc
  · exact .inl (hback c hc)

theorem PartSpelling.not_mem (h : PartSpelling segment part) {c : Char} (hblank : isBlank c = false)
    (hc : c ∉ segment) : c ∉ part := by
  intro hmem
  rcases h.mem hmem with hmem | hmem
  · simp [hblank] at hmem
  · exact hc hmem

theorem isDelimiter_of_isBlank {c : Char} (h : isBlank c = true) : isDelimiter c = false := by
  rw [Bool.eq_false_iff]
  intro hc
  simp only [isDelimiter, Bool.or_eq_true, beq_iff_eq] at hc
  rcases hc with (((rfl | rfl) | rfl) | rfl) | rfl <;> exact absurd h (by decide)

theorem PartSpelling.no_delimiter (h : PartSpelling segment part) (hplain : PlainSegment segment) :
    ∀ c ∈ part, isDelimiter c = false := by
  intro c hc
  rcases h.mem hc with hblank | hc
  · exact isDelimiter_of_isBlank hblank
  · exact hplain.no_delimiter c hc

theorem PartSpelling.dotPairs_append (h : PartSpelling segment part)
    (hplain : PlainSegment segment) (rest : List Char) :
    dotPairs (part ++ rest) = part ++ dotPairs rest :=
  Text.dotPairs_append (h.not_mem (by decide) hplain.no_colon) rest

theorem PartSpelling.splitAt_eq (h : PartSpelling segment part) (hplain : PlainSegment segment) :
    (splitAt '.' part).map collapseBlanks = [segment] := by
  have hdot : '.' ∉ part := h.not_mem (by decide) hplain.no_dot
  have hone : splitAt '.' (joinWith '.' [part]) = [part] :=
    splitAt_joinWith (by simp) (by simpa using hdot)
  rw [joinWith, List.intercalate_singleton] at hone
  rw [hone, List.map_singleton, h.collapseBlanks_eq hplain]

theorem PartSpelling.splitAt_append_cons (h : PartSpelling segment part)
    (hplain : PlainSegment segment) (rest : List Char) :
    (splitAt '.' (part ++ '.' :: rest)).map collapseBlanks =
      segment :: (splitAt '.' rest).map collapseBlanks := by
  have hdot : '.' ∉ part := h.not_mem (by decide) hplain.no_dot
  rw [Text.splitAt_append_cons hdot, List.map_cons, h.collapseBlanks_eq hplain]

end Part

section Path

variable {parts : List (List Char)} {raw : List Char}

theorem PathSpelling.splitAt_eq (h : PathSpelling parts raw)
    (hplain : ∀ s ∈ parts, PlainSegment s) :
    (splitAt '.' (dotPairs raw)).map collapseBlanks = parts := by
  induction h with
  | @last segment part spelt =>
    have hsegment : PlainSegment segment := hplain segment (by simp)
    have hpart := spelt.dotPairs_append hsegment []
    rw [dotPairs, List.append_nil] at hpart
    rw [hpart, spelt.splitAt_eq hsegment]
  | @dot segment part rest others spelt more ih =>
    have hsegment : PlainSegment segment := hplain segment (by simp)
    rw [spelt.dotPairs_append hsegment, dotPairs_cons (by simp),
      spelt.splitAt_append_cons hsegment, ih fun s hs => hplain s (by simp [hs])]
  | @colons segment part rest others spelt more ih =>
    have hsegment : PlainSegment segment := hplain segment (by simp)
    rw [spelt.dotPairs_append hsegment, dotPairs, spelt.splitAt_append_cons hsegment,
      ih fun s hs => hplain s (by simp [hs])]

theorem PathSpelling.no_delimiter (h : PathSpelling parts raw)
    (hplain : ∀ s ∈ parts, PlainSegment s) : ∀ c ∈ raw, isDelimiter c = false := by
  have hdot : isDelimiter '.' = false := by decide
  have hcolon : isDelimiter ':' = false := by decide
  induction h with
  | @last segment part spelt => exact spelt.no_delimiter (hplain segment (by simp))
  | @dot segment part rest others spelt more ih =>
    have hpart := spelt.no_delimiter (hplain segment (by simp))
    have hrest := ih fun s hs => hplain s (by simp [hs])
    grind
  | @colons segment part rest others spelt more ih =>
    have hpart := spelt.no_delimiter (hplain segment (by simp))
    have hrest := ih fun s hs => hplain s (by simp [hs])
    grind

end Path

theorem segments_joinWith {qualifiers : List (List Char)} (h : ∀ q ∈ qualifiers, PlainSegment q)
    (name : List Char) :
    segments (.ofList (joinWith '.' qualifiers)) (.ofList name) = qualifiers ++ [name] := by
  rw [segments, String.toList_ofList, String.toList_ofList]
  congr 1
  cases qualifiers with
  | nil => simp [joinWith]
  | cons q qs =>
    have hne : joinWith '.' (q :: qs) ≠ [] := by
      have hq := (h q (by simp)).ne_nil
      cases qs with
      | nil => simpa [joinWith] using hq
      | cons next qs => simp [joinWith_cons_cons]
    rw [if_neg (by simpa using hne), splitAt_joinWith (by simp) fun s hs => (h s hs).no_dot]

/-- Blanks in front apart, the spelling of a path is a run of characters that names the type. -/
theorem PathSpelling.exists_names {qualifiers : List (List Char)} {name raw : List Char}
    (h : PathSpelling (qualifiers ++ [name]) raw) (hqualifiers : ∀ q ∈ qualifiers, PlainSegment q)
    (hname : PlainSegment name) :
    ∃ front run, raw = front ++ run ∧ Blanks front ∧ Names run (joinWith '.' qualifiers) name := by
  have hplain : ∀ s ∈ qualifiers ++ [name], PlainSegment s := by
    simpa [or_imp, forall_and] using ⟨hqualifiers, hname⟩
  obtain ⟨front, hfront, hraw⟩ := exists_blanks raw
  have hdelimiter := h.no_delimiter hplain
  have hpath : normalizePath (skipBlank raw) = joinWith '.' (qualifiers ++ [name]) := by
    rw [← normalizePath_blanks_append hfront, hraw, normalizePath_eq, h.splitAt_eq hplain]
  refine ⟨front, skipBlank raw, hraw.symm, hfront, ?_, ?_, ⟨hname.no_dot, ?_⟩, hname.ne_nil⟩
  · intro c hc
    exact hdelimiter c (hraw ▸ List.mem_append_right front hc)
  · intro c hc
    obtain ⟨tail, htail⟩ := List.head?_eq_some_iff.mp hc
    exact isBlank_head_skipBlank htail
  · rw [hpath]
    cases qualifiers with
    | nil => exact .inr ⟨rfl, by simp [joinWith]⟩
    | cons q qs => exact .inl (joinWith_concat '.' (by simp) name)

/-! ## Reading spellings -/

theorem Plain.args {type : TypeName} (h : Plain type) : ∀ a ∈ type.args, Plain a := by
  obtain ⟨-, -, hargs⟩ := h
  exact hargs

/-- A list of types that is not empty follows a type behind a comma. -/
def ListDerivation.moreDerivation {close : Char} {blanks cs rest : List Char} {type : TypeName}
    {types : List TypeName} (front : Blanks blanks) :
    ListDerivation close cs (type :: types) rest →
      MoreDerivation close (blanks ++ ',' :: cs) (type :: types) rest
  | .items next more => .comma front next more

mutual

/-- Whatever may follow a type, its spelling has a derivation that leaves blanks at most. -/
theorem Spelling.exists_derivation {type : TypeName} {text rest : List Char} :
    Spelling type text → Plain type → Stops rest →
      ∃ back, Blanks back ∧ Nonempty (TypeDerivation (text ++ rest) type (back ++ rest))
  | .bare path, .mk hqualifiers hname _, hrest => by
    rw [segments_joinWith hqualifiers] at path
    obtain ⟨front, run, rfl, hfront, hrun⟩ := path.exists_names hqualifiers hname
    refine ⟨[], by simp [Blanks], ?_⟩
    rw [List.append_assoc, List.nil_append]
    exact ⟨.bare hfront hrun hrest⟩
  | @Spelling.applied _ _ _ _ _ back path list hback, .mk hqualifiers hname hargs, _ => by
    rw [segments_joinWith hqualifiers] at path
    obtain ⟨front, run, rfl, hfront, hrun⟩ := path.exists_names hqualifiers hname
    obtain ⟨args⟩ := list.nonempty_derivation (back ++ rest) hargs (.inr rfl)
    refine ⟨back, hback, ?_⟩
    simp only [List.append_assoc, List.cons_append]
    exact ⟨.applied hfront hrun args⟩
  | @Spelling.tuple _ _ _ back hfront list hback, hplain, _ => by
    obtain ⟨args⟩ := list.nonempty_derivation (back ++ rest) hplain.args (.inl rfl)
    refine ⟨back, hback, ?_⟩
    simp only [List.append_assoc, List.cons_append]
    exact ⟨.tuple hfront args⟩

/-- The spelling of a list with a closing bracket behind it has a derivation. -/
theorem ListSpelling.nonempty_derivation {types : List TypeName} {inner : List Char} {close : Char}
    (rest : List Char) :
    ListSpelling types inner → (∀ t ∈ types, Plain t) → Closes close →
      Nonempty (ListDerivation close (inner ++ close :: rest) types rest)
  | .none between, _, _ => ⟨.empty between⟩
  | .one spelt, hplain, hclose => by
    have hstops := stops_cons hclose.isDelimiter rest
    obtain ⟨back, hback, ⟨first⟩⟩ := spelt.exists_derivation (hplain _ (by simp)) hstops
    exact ⟨.items first (.done hback)⟩
  | @ListSpelling.more _ _ _ _ inner spelt others, hplain, hclose => by
    have hcomma : isDelimiter ',' = true := by decide
    have hstops := stops_cons hcomma (inner ++ close :: rest)
    obtain ⟨back, hback, ⟨first⟩⟩ := spelt.exists_derivation (hplain _ (by simp)) hstops
    obtain ⟨list⟩ := others.nonempty_derivation rest (fun t ht => hplain t (by simp [ht])) hclose
    rw [List.append_assoc, List.cons_append]
    exact ⟨.items first (list.moreDerivation hback)⟩

end

theorem Spelling.parse_eq {type : TypeName} {text : String} (h : Spelling type text.toList)
    (hplain : Plain type) : parse text = .ok type := by
  have hstops : Stops [] := by simp [Stops]
  obtain ⟨back, hback, ⟨whole⟩⟩ := h.exists_derivation hplain hstops
  rw [List.append_nil, List.append_nil] at whole
  rw [parse_eq_ok, parse?_eq_some_iff]
  exact ⟨⟨whole, hback⟩⟩

/-- However a plain type is written, it is read as itself, and a query that asks for it by that
text finds what a query finds that asks for the type. -/
theorem parse_spelling {type : TypeName} {text : String} (hplain : Plain type)
    (h : Spelling type text.toList) :
    parse text = .ok type ∧
      TypesCondition.includesNamed text = .ok (.includes type) ∧
      ∀ (aspect : TypesCondition → Query.Step) (q : Query) (root : Declaration),
        (TypesCondition.includesNamed text).map (fun c => (q.apply (aspect c)).run root) =
          .ok ((q.apply (aspect (.includes type))).run root) := by
  have hparse : parse text = .ok type := h.parse_eq hplain
  have hcondition : TypesCondition.includesNamed text = .ok (.includes type) := by
    rw [TypesCondition.includesNamed, hparse]
    rfl
  refine ⟨hparse, hcondition, ?_⟩
  intro aspect q root
  rw [hcondition]
  rfl

/-- A type with a qualifier, a tuple, a space in a name and a type without arguments. -/
def wideMap : TypeName := ⟨"io", "Map", [tuple [⟨"", "a b", []⟩], ⟨"", "U", []⟩]⟩

/-- Its text with a pair of colons, blanks of several kinds, parentheses and an empty list. -/
def wideMapText : String := "\u00a0io ::\u3000Map <\t( a \n b ),U< >\r>"

theorem plain_wideMap : Plain wideMap := by
  have hsegment : ∀ s ∈ ["io", "Map", "Tuple", "a b", "U"], PlainSegment (String.toList s) := by
    simp only [List.forall_mem_cons, List.not_mem_nil, false_imp_iff, implies_true, and_true]
    refine ⟨?_, ?_, ?_, ?_, ?_⟩ <;> refine ⟨⟨⟨?_, ?_⟩, ?_, ?_, ?_, ?_, ?_⟩, ?_, ?_⟩ <;>
      simp [isBlank, isDelimiter, Unpaired]
  have hspaced : Plain ⟨"", "a b", []⟩ :=
    @Plain.mk [] _ [] (by simp) (hsegment "a b" (by simp)) (by simp)
  have hunit : Plain ⟨"", "U", []⟩ :=
    @Plain.mk [] _ [] (by simp) (hsegment "U" (by simp)) (by simp)
  have htuple : Plain (tuple [⟨"", "a b", []⟩]) :=
    @Plain.mk [] _ _ (by simp) (hsegment "Tuple" (by simp)) (by simpa using hspaced)
  exact @Plain.mk ["io".toList] _ _ (by simpa using hsegment "io" (by simp))
    (hsegment "Map" (by simp)) (by simpa using ⟨htuple, hunit⟩)

theorem spelling_wideMap : Spelling wideMap wideMapText.toList := by
  have hgap : Widened " b".toList " \n b".toList :=
    @Widened.widen ' ' _ " \n ".toList _ (by decide) (by decide) (by decide) (.refl "b".toList)
  have hspaced : PartSpelling "a b".toList " a \n b ".toList :=
    @PartSpelling.mk _ [' '] _ [' '] (by decide) ((Widened.refl "a".toList).append hgap)
      (by decide)
  have htuple : Spelling (tuple [⟨"", "a b", []⟩]) "\t( a \n b )".toList :=
    @Spelling.tuple _ ['\t'] _ [] (by decide)
      (.one (@Spelling.bare "" "a b" _ (.last hspaced))) (by decide)
  have hname : PartSpelling "U".toList "U".toList :=
    @PartSpelling.mk _ [] _ [] (by decide) (.refl "U".toList) (by decide)
  have hunit : Spelling ⟨"", "U", []⟩ "U< >\r".toList :=
    @Spelling.applied "" "U" [] _ [' '] ['\r'] (.last hname) (.none (by decide)) (by decide)
  have hio : PartSpelling "io".toList "\u00a0io ".toList :=
    @PartSpelling.mk _ ['\u00a0'] _ [' '] (by decide) (.refl "io".toList) (by decide)
  have hmap : PartSpelling "Map".toList "\u3000Map ".toList :=
    @PartSpelling.mk _ ['\u3000'] _ [' '] (by decide) (.refl "Map".toList) (by decide)
  have hpath : PathSpelling (segments "io" "Map") "\u00a0io ::\u3000Map ".toList :=
    .colons hio (.last hmap)
  have hlist : ListSpelling wideMap.args "\t( a \n b ),U< >\r".toList :=
    .more htuple (.one hunit)
  have htext : wideMapText.toList = "\u00a0io ::\u3000Map ".toList ++
      '<' :: ("\t( a \n b ),U< >\r".toList ++ ['>']) := by decide
  rw [htext]
  exact .applied hpath hlist (by decide)

theorem parse_spelling_wideMap :
    parse wideMapText = .ok wideMap ∧
      TypesCondition.includesNamed wideMapText = .ok (.includes wideMap) ∧
      ∀ (aspect : TypesCondition → Query.Step) (q : Query) (root : Declaration),
        (TypesCondition.includesNamed wideMapText).map (fun c => (q.apply (aspect c)).run root) =
          .ok ((q.apply (aspect (.includes wideMap))).run root) :=
  parse_spelling plain_wideMap spelling_wideMap

end TypeName

end DeclTree

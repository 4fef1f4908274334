import DeclTree.Proofs.TypeName.Steps

/-!
# The grammar of type names

A type is a list in parentheses, or a run of characters that names it, with or without a list in
angle brackets behind it. Blanks may stand in front of a type, in front of a comma and in front of a
closing bracket, and at the end of a text. A run goes on as long as it can, so it takes in the
blanks behind it.

Derivations are data here, so that two of them can be compared. A text has one derivation at most,
and it is read as a type exactly when it has one with that type as its value.
-/

open DeclTree.Text

namespace DeclTree

namespace TypeName

def Blanks (cs : List Char) : Prop := ∀ c ∈ cs, isBlank c = true

instance (cs : List Char) : Decidable (Blanks cs) :=
  decidable_of_iff (cs.all isBlank = true) List.all_eq_true

/-- A path is divided at its last dot; without a dot it is all name. -/
structure Divides (path qualifier name : List Char) : Prop where
  no_dot : '.' ∉ name
  path_eq : path = qualifier ++ '.' :: name ∨ qualifier = [] ∧ path = name

/-- A run of characters names a type: it starts with no blank, and its normalised path has a name
behind the last dot. -/
structure Names (raw qualifier name : List Char) : Prop where
  no_delimiter : ∀ c ∈ raw, isDelimiter c = false
  head : ∀ c ∈ raw.head?, isBlank c = false
  divides : Divides (normalizePath raw) qualifier name
  name_ne_nil : name ≠ []

/-- A run of characters other than delimiters cannot go on into this text. -/
def Stops (rest : List Char) : Prop := ∀ c ∈ rest.head?, isDelimiter c = true

mutual

/-- Derivations of a type from the front of a text, with what they leave of the text. -/
inductive TypeDerivation : List Char → TypeName → List Char → Type
  | tuple {blanks inner rest : List Char} {args : List TypeName} (front : Blanks blanks)
      (list : ListDerivation ')' inner args rest) :
      TypeDerivation (blanks ++ '(' :: inner) (tuple args) rest
  | bare {blanks raw rest qualifier name : List Char} (front : Blanks blanks)
      (run : Names raw qualifier name) (maximal : Stops rest) :
      TypeDerivation (blanks ++ (raw ++ rest)) ⟨.ofList qualifier, .ofList name, []⟩ rest
  | applied {blanks raw inner rest qualifier name : List Char} {args : List TypeName}
      (front : Blanks blanks) (run : Names raw qualifier name)
      (list : ListDerivation '>' inner args rest) :
      TypeDerivation (blanks ++ (raw ++ '<' :: inner)) ⟨.ofList qualifier, .ofList name, args⟩ rest

/-- Derivations of a list of types through its closing bracket. -/
inductive ListDerivation : Char → List Char → List TypeName → List Char → Type
  | empty {close : Char} {blanks rest : List Char} (front : Blanks blanks) :
      ListDerivation close (blanks ++ close :: rest) [] rest
  | items {close : Char} {cs after rest : List Char} {type : TypeName} {types : List TypeName}
      (first : TypeDerivation cs type after) (more : MoreDerivation close after types rest) :
      ListDerivation close cs (type :: types) rest

/-- Derivations of what follows the first type of a list. -/
inductive MoreDerivation : Char → List Char → List TypeName → List Char → Type
  | done {close : Char} {blanks rest : List Char} (front : Blanks blanks) :
      MoreDerivation close (blanks ++ close :: rest) [] rest
  | comma {close : Char} {blanks inner after rest : List Char} {type : TypeName}
      {types : List TypeName} (front : Blanks blanks) (next : TypeDerivation inner type after)
      (more : MoreDerivation close after types rest) :
      MoreDerivation close (blanks ++ ',' :: inner) (type :: types) rest

end

/-- Derivations of a type from a whole text. -/
inductive TextDerivation (text : List Char) (type : TypeName) : Type
  | mk {blanks : List Char} (whole : TypeDerivation text type blanks) (back : Blanks blanks)

/-! ## Blanks and runs in front of a text -/

theorem skipBlank_append {blanks : List Char} (h : Blanks blanks) (cs : List Char) :
    skipBlank (blanks ++ cs) = skipBlank cs := by
  induction blanks with
  | nil => rfl
  | cons c blanks ih =>
    rw [List.cons_append, skipBlank_blank (h c (by simp))]
    exact ih fun d hd => h d (by simp [hd])

theorem skipBlank_append_cons {blanks : List Char} {c : Char} (h : Blanks blanks)
    (hc : isBlank c = false) (cs : List Char) : skipBlank (blanks ++ c :: cs) = c :: cs := by
  rw [skipBlank_append h, skipBlank_cons hc]

theorem exists_blanks (cs : List Char) : ∃ blanks, Blanks blanks ∧ blanks ++ skipBlank cs = cs :=
  ⟨cs.takeWhile isBlank, fun _ hc => List.mem_takeWhile_imp hc, List.takeWhile_append_dropWhile⟩

/-- Where the blanks in front of a text end is determined by the text. -/
theorem append_inj_of_blanks {blanks blanks' cs cs' : List Char} {c c' : Char}
    (h : Blanks blanks) (h' : Blanks blanks') (hc : isBlank c = false) (hc' : isBlank c' = false)
    (heq : blanks ++ c :: cs = blanks' ++ c' :: cs') : blanks = blanks' ∧ c = c' ∧ cs = cs' := by
  have hskip := congrArg skipBlank heq
  rw [skipBlank_append_cons h hc, skipBlank_append_cons h' hc'] at hskip
  obtain ⟨rfl, rfl⟩ := List.cons.inj hskip
  exact ⟨List.append_cancel_right heq, rfl, rfl⟩

theorem Divides.splitPath_eq {path qualifier name : List Char} (h : Divides path qualifier name) :
    splitPath path = (qualifier, name) := by
  rcases h.path_eq with rfl | ⟨rfl, rfl⟩
  · rw [splitPath, splitLast_append_cons qualifier h.no_dot, Option.getD_some]
  · rw [splitPath, splitLast_eq_none h.no_dot, Option.getD_none]

theorem exists_divides (path : List Char) : ∃ qualifier name, Divides path qualifier name := by
  obtain ⟨qualifiers, name, hparts⟩ :=
    List.eq_nil_or_concat' (splitAt '.' path) |>.resolve_left (splitAt_ne_nil '.' path)
  have hname : name ∈ splitAt '.' path := by simp [hparts]
  have hdot : '.' ∉ name := not_mem_of_mem_splitAt hname
  have hpath := joinWith_splitAt '.' path
  rw [hparts] at hpath
  by_cases hne : qualifiers = []
  · exact ⟨[], name, hdot, .inr ⟨rfl, by simpa [hne, joinWith] using hpath.symm⟩⟩
  · exact ⟨joinWith '.' qualifiers, name, hdot, .inl (by rw [← hpath, joinWith_concat '.' hne])⟩

theorem ofPath?_eq_some_iff {path : List Char} {args : List TypeName} {type : TypeName} :
    ofPath? path args = some type ↔
      ∃ qualifier name, Divides path qualifier name ∧ name ≠ [] ∧
        type = ⟨.ofList qualifier, .ofList name, args⟩ := by
  obtain ⟨qualifier, name, hdivides⟩ := exists_divides path
  rw [ofPath?, hdivides.splitPath_eq]
  dsimp only
  constructor
  · intro h
    split at h
    · simp at h
    · rename_i hname
      exact ⟨qualifier, name, hdivides, by simpa using hname, by simpa using h.symm⟩
  · rintro ⟨qualifier', name', hdivides', hname, rfl⟩
    have hsame : (qualifier, name) = (qualifier', name') :=
      hdivides.splitPath_eq.symm.trans hdivides'.splitPath_eq
    cases hsame
    rw [if_neg (by simpa using hname)]

theorem stops_cons {c : Char} (hc : isDelimiter c = true) (rest : List Char) :
    Stops (c :: rest) := by
  intro d hd
  obtain rfl : c = d := by simpa using hd
  exact hc

section Names

variable {raw qualifier name : List Char}

theorem Names.exists_cons (run : Names raw qualifier name) :
    ∃ c cs, raw = c :: cs ∧ isBlank c = false ∧ isDelimiter c = false := by
  cases raw with
  | nil =>
    rcases run.divides.path_eq with hpath | ⟨-, hpath⟩
    · simp [normalizePath, collapseBlanks, dotPairs, joinWith, trim, trimEnd] at hpath
    · exact absurd hpath.symm run.name_ne_nil
  | cons c cs => exact ⟨c, cs, rfl, run.head c rfl, run.no_delimiter c (by simp)⟩

theorem Names.skipBlank_append (run : Names raw qualifier name) {blanks : List Char}
    (front : Blanks blanks) (rest : List Char) :
    skipBlank (blanks ++ (raw ++ rest)) = raw ++ rest := by
  obtain ⟨c, cs, rfl, hblank, -⟩ := run.exists_cons
  rw [List.cons_append, skipBlank_append_cons front hblank]

/-- No run starts at an opening parenthesis. -/
theorem Names.ne_open (run : Names raw qualifier name) {blanks blanks' inner rest : List Char}
    (front : Blanks blanks) (front' : Blanks blanks') :
    blanks' ++ '(' :: inner ≠ blanks ++ (raw ++ rest) := by
  obtain ⟨c, cs, rfl, hblank, hdelimiter⟩ := run.exists_cons
  intro heq
  obtain ⟨-, rfl, -⟩ := append_inj_of_blanks front' front (by decide) hblank heq
  exact absurd hdelimiter (by decide)

/-- Where a run starts and ends, and what it names, is determined by the text. -/
theorem Names.append_inj {raw' qualifier' name' blanks blanks' rest rest' : List Char}
    (run : Names raw qualifier name) (run' : Names raw' qualifier' name') (front : Blanks blanks)
    (front' : Blanks blanks') (maximal : Stops rest) (maximal' : Stops rest')
    (heq : blanks ++ (raw ++ rest) = blanks' ++ (raw' ++ rest')) :
    blanks = blanks' ∧ raw = raw' ∧ qualifier = qualifier' ∧ name = name' ∧ rest = rest' := by
  have hbody : raw ++ rest = raw' ++ rest' := by
    rw [← run.skipBlank_append front rest, heq, run'.skipBlank_append front']
  have hspan : (raw, rest) = (raw', rest') := by
    rw [← spanPath_append run.no_delimiter maximal, hbody,
      spanPath_append run'.no_delimiter maximal']
  cases hspan
  have hnamed : (qualifier, name) = (qualifier', name') :=
    run.divides.splitPath_eq.symm.trans run'.divides.splitPath_eq
  cases hnamed
  exact ⟨List.append_cancel_right heq, rfl, rfl, rfl, rfl⟩

end Names

/-! ## One derivation at most -/

/-- The closing bracket of a list. -/
def Closes (close : Char) : Prop := close = ')' ∨ close = '>'

theorem Closes.not_blank {close : Char} (h : Closes close) : isBlank close = false := by
  rcases h with rfl | rfl <;> rfl

theorem Closes.isDelimiter {close : Char} (h : Closes close) : isDelimiter close = true := by
  rcases h with rfl | rfl <;> rfl

theorem Closes.ne {close : Char} (h : Closes close) : close ≠ '(' ∧ close ≠ '<' ∧ close ≠ ',' := by
  rcases h with rfl | rfl <;> decide

/-- No opening bracket starts the text, so a type in front of it has no list of arguments there. -/
def Apart (rest : List Char) : Prop := rest.head? ≠ some '<'

theorem apart_append {blanks rest : List Char} {c : Char} (front : Blanks blanks) (hc : c ≠ '<') :
    Apart (blanks ++ c :: rest) := by
  intro hhead
  cases blanks with
  | nil => exact hc (by simpa using hhead)
  | cons d blanks =>
    obtain rfl : d = '<' := by simpa using hhead
    exact absurd (front '<' (by simp)) (by decide)

theorem Blanks.apart {blanks : List Char} (h : Blanks blanks) : Apart blanks := by
  intro hhead
  exact absurd (h '<' (List.mem_of_mem_head? hhead)) (by decide)

theorem MoreDerivation.apart {close : Char} {cs rest : List Char} {types : List TypeName}
    (more : MoreDerivation close cs types rest) (hclose : Closes close) : Apart cs := by
  cases more with
  | done front => exact apart_append front hclose.ne.2.1
  | comma front => exact apart_append front (by decide)

theorem Names.not_closes {raw qualifier name : List Char} {c : Char}
    (run : Names (c :: raw) qualifier name) : ¬ Closes c := by
  intro hclose
  have hdelimiter := run.no_delimiter c (by simp)
  simp [hclose.isDelimiter] at hdelimiter

/-- No type starts with a closing bracket. -/
theorem TypeDerivation.exists_cons {cs rest : List Char} {type : TypeName}
    (whole : TypeDerivation cs type rest) :
    ∃ c inner, skipBlank cs = c :: inner ∧ ¬ Closes c := by
  cases whole with
  | tuple front =>
    rw [skipBlank_append_cons front (by decide)]
    exact ⟨'(', _, rfl, by simp [Closes]⟩
  | bare front run =>
    rw [run.skipBlank_append front]
    obtain ⟨c, cs, rfl, -⟩ := run.exists_cons
    exact ⟨c, _, rfl, run.not_closes⟩
  | applied front run =>
    rw [run.skipBlank_append front]
    obtain ⟨c, cs, rfl, -⟩ := run.exists_cons
    exact ⟨c, _, rfl, run.not_closes⟩

theorem TypeDerivation.ne_append_close {cs rest blanks after : List Char} {type : TypeName}
    {close : Char} (whole : TypeDerivation cs type rest) (hclose : Closes close)
    (front : Blanks blanks) : cs ≠ blanks ++ close :: after := by
  intro heq
  obtain ⟨c, inner, hskip, hstart⟩ := whole.exists_cons
  rw [heq, skipBlank_append_cons front hclose.not_blank] at hskip
  obtain rfl : close = c := (List.cons.inj hskip).1
  exact hstart hclose

mutual

theorem TypeDerivation.unique {cs cs' rest rest' : List Char} {type type' : TypeName} :
    (whole : TypeDerivation cs type rest) → (whole' : TypeDerivation cs' type' rest') →
      cs = cs' → Apart rest → Apart rest' → type = type' ∧ rest = rest' ∧ whole ≍ whole'
  | .tuple front list, .tuple front' list', heq, _, _ => by
    obtain ⟨rfl, -, rfl⟩ := append_inj_of_blanks front front' (by decide) (by decide) heq
    obtain ⟨rfl, rfl, hlist⟩ := list.unique list' (.inl rfl) rfl
    cases hlist
    exact ⟨rfl, rfl, .rfl⟩
  | .tuple front _, .bare front' run' _, heq, _, _ => absurd heq (run'.ne_open front' front)
  | .tuple front _, .applied front' run' _, heq, _, _ => absurd heq (run'.ne_open front' front)
  | .bare front run _, .tuple front' _, heq, _, _ => absurd heq.symm (run.ne_open front front')
  | .applied front run _, .tuple front' _, heq, _, _ => absurd heq.symm (run.ne_open front front')
  | .bare front run maximal, .bare front' run' maximal', heq, _, _ => by
    obtain ⟨rfl, rfl, rfl, rfl, rfl⟩ := run.append_inj run' front front' maximal maximal' heq
    exact ⟨rfl, rfl, .rfl⟩
  | .bare front run maximal, .applied front' run' _, heq, hrest, _ => by
    obtain ⟨-, -, -, -, rfl⟩ := run.append_inj run' front front' maximal (stops_cons rfl _) heq
    exact absurd rfl hrest
  | .applied front run _, .bare front' run' maximal', heq, _, hrest' => by
    obtain ⟨-, -, -, -, rfl⟩ := run.append_inj run' front front' (stops_cons rfl _) maximal' heq
    exact absurd rfl hrest'
  | .applied front run list, .applied front' run' list', heq, _, _ => by
    obtain ⟨rfl, rfl, rfl, rfl, hinner⟩ :=
      run.append_inj run' front front' (stops_cons rfl _) (stops_cons rfl _) heq
    obtain rfl := List.tail_eq_of_cons_eq hinner
    obtain ⟨rfl, rfl, hlist⟩ := list.unique list' (.inr rfl) rfl
    cases hlist
    exact ⟨rfl, rfl, .rfl⟩

theorem ListDerivation.unique {close : Char} {cs cs' rest rest' : List Char}
    {types types' : List TypeName} :
    (list : ListDerivation close cs types rest) → (list' : ListDerivation close cs' types' rest') →
      Closes close → cs = cs' → types = types' ∧ rest = rest' ∧ list ≍ list'
  | .empty front, .empty front', hclose, heq => by
    obtain ⟨rfl, -, rfl⟩ :=
      append_inj_of_blanks front front' hclose.not_blank hclose.not_blank heq
    exact ⟨rfl, rfl, .rfl⟩
  | .empty front, .items first' _, hclose, heq =>
    absurd heq.symm (first'.ne_append_close hclose front)
  | .items first _, .empty front', hclose, heq => absurd heq (first.ne_append_close hclose front')
  | .items first more, .items first' more', hclose, heq => by
    obtain ⟨rfl, rfl, hfirst⟩ := first.unique first' heq (more.apart hclose) (more'.apart hclose)
    obtain ⟨rfl, rfl, hmore⟩ := more.unique more' hclose rfl
    subst heq
    cases hfirst
    cases hmore
    exact ⟨rfl, rfl, .rfl⟩

theorem MoreDerivation.unique {close : Char} {cs cs' rest rest' : List Char}
    {types types' : List TypeName} :
    (more : MoreDerivation close cs types rest) → (more' : MoreDerivation close cs' types' rest') →
      Closes close → cs = cs' → types = types' ∧ rest = rest' ∧ more ≍ more'
  | .done front, .done front', hclose, heq => by
    obtain ⟨rfl, -, rfl⟩ :=
      append_inj_of_blanks front front' hclose.not_blank hclose.not_blank heq
    exact ⟨rfl, rfl, .rfl⟩
  | .done front, .comma front' _ _, hclose, heq => by
    obtain ⟨-, hcomma, -⟩ :=
      append_inj_of_blanks front front' hclose.not_blank (by decide) heq
    exact absurd hcomma hclose.ne.2.2
  | .comma front _ _, .done front', hclose, heq => by
    obtain ⟨-, hcomma, -⟩ :=
      append_inj_of_blanks front front' (by decide) hclose.not_blank heq
    exact absurd hcomma.symm hclose.ne.2.2
  | .comma front next more, .comma front' next' more', hclose, heq => by
    obtain ⟨rfl, -, rfl⟩ := append_inj_of_blanks front front' (by decide) (by decide) heq
    obtain ⟨rfl, rfl, hnext⟩ := next.unique next' rfl (more.apart hclose) (more'.apart hclose)
    obtain ⟨rfl, rfl, hmore⟩ := more.unique more' hclose rfl
    cases hnext
    cases hmore
    exact ⟨rfl, rfl, .rfl⟩

end

theorem subsingleton_textDerivation (text : List Char) :
    Subsingleton ((type : TypeName) × TextDerivation text type) := by
  constructor
  rintro ⟨type, whole, back⟩ ⟨type', whole', back'⟩
  obtain ⟨rfl, rfl, hwhole⟩ := whole.unique whole' rfl back.apart back'.apart
  cases hwhole
  rfl

/-! ## Derivations of what is read -/

theorem names_of_ofPath? {cs raw after : List Char} {args : List TypeName} {type : TypeName}
    (hspan : spanPath (skipBlank cs) = (raw, after))
    (hmade : ofPath? (normalizePath raw) args = some type) :
    skipBlank cs = raw ++ after ∧ Stops after ∧ ∃ qualifier name, Names raw qualifier name ∧
      type = ⟨.ofList qualifier, .ofList name, args⟩ := by
  obtain ⟨qualifier, name, hdivides, hname, rfl⟩ := ofPath?_eq_some_iff.mp hmade
  have hraw : ∀ c ∈ raw, isDelimiter c = false := by
    simpa [hspan] using no_delimiter_spanPath (skipBlank cs)
  rw [spanPath, List.span_eq_takeWhile_dropWhile, Prod.mk.injEq] at hspan
  have hskip : skipBlank cs = raw ++ after := by
    rw [← hspan.1, ← hspan.2, List.takeWhile_append_dropWhile]
  refine ⟨hskip, ?_, qualifier, name, ⟨hraw, ?_, hdivides, hname⟩, rfl⟩
  · intro c hc
    have hstop := List.head?_dropWhile_not (fun c => !isDelimiter c) (skipBlank cs)
    rw [hspan.2, hc] at hstop
    simpa using hstop
  · intro c hc
    obtain ⟨tail, rfl⟩ := List.head?_eq_some_iff.mp hc
    exact isBlank_head_skipBlank hskip

theorem readItems_skipBlank (fuel : Nat) (close : Char) (cs : List Char) :
    readItems fuel close (skipBlank cs) = readItems fuel close cs := by
  induction cs with
  | nil => rfl
  | cons c cs ih =>
    cases hc : isBlank c with
    | true => rw [skipBlank_blank hc, ih, readItems_blank hc]
    | false => rw [skipBlank_cons hc]

/-- Whatever the readers read has a derivation. -/
theorem nonempty_derivation_of_read (fuel : Nat) :
    (∀ cs type rest, readType fuel cs = some (type, rest) →
      Nonempty (TypeDerivation cs type rest)) ∧
    (∀ close cs types rest, readList fuel close cs = some (types, rest) →
      Nonempty (ListDerivation close cs types rest)) ∧
    ∀ close cs types rest, readItems fuel close cs = some (types, rest) →
      ∃ type more after, types = type :: more ∧ Nonempty (TypeDerivation cs type after) ∧
        Nonempty (MoreDerivation close after more rest) := by
  induction fuel with
  | zero => simp [readType, readList, readItems]
  | succ fuel ih =>
    obtain ⟨ihtype, ihlist, ihitems⟩ := ih
    refine ⟨?_, ?_, ?_⟩
    · intro cs type rest h
      obtain ⟨blanks, front, hcs⟩ := exists_blanks cs
      rcases readType_eq_some.mp h with
        ⟨inner, args, hopen, hargs, rfl⟩ | ⟨raw, after, hspan, -, hcase⟩
      · obtain ⟨list⟩ := ihlist ')' inner args rest hargs
        rw [← hcs, hopen]
        exact ⟨.tuple front list⟩
      · rcases hcase with ⟨inner, args, rfl, hargs, hmade⟩ | ⟨-, rfl, hmade⟩
        · obtain ⟨hskip, -, qualifier, name, run, rfl⟩ := names_of_ofPath? hspan hmade
          obtain ⟨list⟩ := ihlist '>' inner args rest hargs
          rw [← hcs, hskip]
          exact ⟨.applied front run list⟩
        · obtain ⟨hskip, maximal, qualifier, name, run, rfl⟩ := names_of_ofPath? hspan hmade
          rw [← hcs, hskip]
          exact ⟨.bare front run maximal⟩
    · intro close cs types rest h
      obtain ⟨blanks, front, hcs⟩ := exists_blanks cs
      rcases readList_eq_some.mp h with ⟨hclose, rfl⟩ | ⟨c, inner, hskip, -, hitems⟩
      · rw [← hcs, hclose]
        exact ⟨.empty front⟩
      · rw [← hskip, readItems_skipBlank] at hitems
        obtain ⟨type, more, after, rfl, ⟨first⟩, ⟨tail⟩⟩ := ihitems close cs types rest hitems
        exact ⟨.items first tail⟩
    · intro close cs types rest h
      obtain ⟨type, after, hfirst, hcase⟩ := readItems_eq_some.mp h
      obtain ⟨blanks, front, hafter⟩ := exists_blanks after
      rcases hcase with ⟨inner, more, hcomma, hmore, rfl⟩ | ⟨-, hclose, rfl⟩
      · obtain ⟨next, others, following, rfl, ⟨second⟩, ⟨tail⟩⟩ :=
          ihitems close inner more rest hmore
        refine ⟨type, next :: others, after, rfl, ihtype cs type after hfirst, ?_⟩
        rw [← hafter, hcomma]
        exact ⟨.comma front second tail⟩
      · refine ⟨type, [], after, rfl, ihtype cs type after hfirst, ?_⟩
        rw [← hafter, hclose]
        exact ⟨.done front⟩

/-! ## Reading what has a derivation -/

theorem Names.path_ne_nil {raw qualifier name : List Char} (run : Names raw qualifier name) :
    normalizePath raw ≠ [] := by
  rcases run.divides.path_eq with hpath | ⟨-, hpath⟩
  · simp [hpath]
  · rw [hpath]
    exact run.name_ne_nil

theorem Names.ofPath?_eq {raw qualifier name : List Char} (run : Names raw qualifier name)
    (args : List TypeName) :
    ofPath? (normalizePath raw) args = some ⟨.ofList qualifier, .ofList name, args⟩ :=
  ofPath?_eq_some_iff.mpr ⟨qualifier, name, run.divides, run.name_ne_nil, rfl⟩

theorem Names.spanPath_eq {blanks raw rest qualifier name : List Char}
    (run : Names raw qualifier name) (front : Blanks blanks) (maximal : Stops rest) :
    spanPath (skipBlank (blanks ++ (raw ++ rest))) = (raw, rest) := by
  rw [run.skipBlank_append front, spanPath_append run.no_delimiter maximal]

mutual

/-- With enough steps a type is read as its derivation says. -/
theorem TypeDerivation.read_eq {cs rest : List Char} {type : TypeName} :
    TypeDerivation cs type rest → Apart rest → ∀ fuel, 3 * cs.length + 1 ≤ fuel →
      readType fuel cs = some (type, rest)
  | .tuple front list, _, fuel + 1, hfuel => by
    rw [List.length_append, List.length_cons] at hfuel
    have hlist := list.read_eq (.inl rfl) fuel (by omega)
    exact readType_eq_some.mpr (.inl ⟨_, _, skipBlank_append_cons front (by decide) _, hlist, rfl⟩)
  | .bare front run maximal, hrest, _ + 1, _ =>
    readType_eq_some.mpr (.inr ⟨_, _, run.spanPath_eq front maximal, run.path_ne_nil,
      .inr ⟨hrest, rfl, run.ofPath?_eq []⟩⟩)
  | .applied front run list, _, fuel + 1, hfuel => by
    rw [List.length_append, List.length_append, List.length_cons] at hfuel
    have hlist := list.read_eq (.inr rfl) fuel (by omega)
    exact readType_eq_some.mpr (.inr ⟨_, _, run.spanPath_eq front (stops_cons rfl _),
      run.path_ne_nil, .inl ⟨_, _, rfl, hlist, run.ofPath?_eq _⟩⟩)

theorem ListDerivation.read_eq {close : Char} {cs rest : List Char} {types : List TypeName} :
    ListDerivation close cs types rest → Closes close → ∀ fuel, 3 * cs.length + 3 ≤ fuel →
      readList fuel close cs = some (types, rest)
  | .empty front, hclose, _ + 1, _ =>
    readList_eq_some.mpr (.inl ⟨skipBlank_append_cons front hclose.not_blank _, rfl⟩)
  | .items first more, hclose, fuel + 2, hfuel => by
    have hfirst := first.read_eq (more.apart hclose) fuel (by omega)
    have hafter := (length_le_of_read fuel).1 _ _ _ hfirst
    have hitems := more.read_eq hclose fuel (by omega) hfirst
    obtain ⟨c, inner, hskip, hstart⟩ := first.exists_cons
    have hne : c ≠ close := by
      intro heq
      exact hstart (heq ▸ hclose)
    rw [← readItems_skipBlank, hskip] at hitems
    exact readList_eq_some.mpr (.inr ⟨c, inner, hskip, hne, hitems⟩)

theorem MoreDerivation.read_eq {close : Char} {cs after rest : List Char} {type : TypeName}
    {types : List TypeName} :
    MoreDerivation close after types rest → Closes close → ∀ fuel, 3 * after.length + 1 ≤ fuel →
      readType fuel cs = some (type, after) →
      readItems (fuel + 1) close cs = some (type :: types, rest)
  | .done front, hclose, _, _, hfirst =>
    readItems_eq_some.mpr ⟨_, _, hfirst,
      .inr ⟨hclose.ne.2.2, skipBlank_append_cons front hclose.not_blank _, rfl⟩⟩
  | .comma front next more, hclose, fuel + 1, hfuel, hfirst => by
    rw [List.length_append, List.length_cons] at hfuel
    have hnext := next.read_eq (more.apart hclose) fuel (by omega)
    have hafter := (length_le_of_read fuel).1 _ _ _ hnext
    have hmore := more.read_eq hclose fuel (by omega) hnext
    exact readItems_eq_some.mpr ⟨_, _, hfirst,
      .inl ⟨_, _, skipBlank_append_cons front (by decide) _, hmore, rfl⟩⟩

end

/-- A text with a derivation is read as its value, and no other text is read. -/
theorem parse?_eq_some_iff {text : List Char} {type : TypeName} :
    parse? text = some type ↔ Nonempty (TextDerivation text type) := by
  constructor
  · intro h
    rw [parse?] at h
    split at h
    · rename_i made rest hread
      obtain ⟨whole⟩ := (nonempty_derivation_of_read _).1 text made rest hread
      obtain ⟨blanks, back, hrest⟩ := exists_blanks rest
      split at h
      · rename_i hblank
        cases h
        rw [List.isEmpty_iff.mp hblank, List.append_nil] at hrest
        exact ⟨⟨whole, hrest ▸ back⟩⟩
      · simp at h
    · simp at h
  · rintro ⟨⟨whole, back⟩⟩
    have hread := whole.read_eq back.apart (3 * text.length + 3) (by omega)
    have hskip := skipBlank_append back []
    rw [List.append_nil, skipBlank_nil] at hskip
    simp [parse?, hread, hskip]

theorem parse_eq_error_iff {text : String} :
    parse text = .error (.invalidFilterValue .type text) ↔ parse? text.toList = none := by
  rw [parse]
  split <;> simp_all

/-- Reading accepts exactly the texts of the grammar, as the type that the one derivation of the
text gives. Every other text is refused, with the text in the error. Either way the recursion has
ended by itself: it does not run out of the steps it is given. -/
theorem parse_follows_grammar (text : String) :
    (∀ type, parse text = .ok type ↔ Nonempty (TextDerivation text.toList type)) ∧
      Subsingleton ((type : TypeName) × TextDerivation text.toList type) ∧
      (∃ aspect : FilterAspect, aspect.label = "type" ∧
        (parse text = .error (.invalidFilterValue aspect text) ↔
          ∀ type, IsEmpty (TextDerivation text.toList type))) ∧
      (scan (3 * text.toList.length + 3) text.toList).run = some (parse? text.toList) := by
  refine ⟨?_, subsingleton_textDerivation text.toList, ⟨.type, rfl, ?_⟩, scan_run text.toList⟩
  · intro type
    rw [parse_eq_ok, parse?_eq_some_iff]
  · rw [parse_eq_error_iff, Option.eq_none_iff_forall_ne_some]
    simp only [ne_eq, parse?_eq_some_iff, not_nonempty_iff]

end TypeName

end DeclTree

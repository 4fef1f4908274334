import DeclTree.Declaration.Codec
import DeclTree.Proofs.TypeName.Path
import Mathlib

/-!
# Canonical texts are read back

The readers make only types whose paths are normalised. The canonical text of such a type holds its
path as the readers leave it, so reading the text gives the type back, and no two of these types
have one canonical text.
-/

open DeclTree.Text

namespace DeclTree

namespace TypeName

/-! ## What the readers do -/

theorem no_delimiter_spanPath (cs : List Char) :
    ∀ c ∈ (spanPath cs).1, isDelimiter c = false := by
  rw [spanPath, List.span_eq_takeWhile_dropWhile]
  intro c hc
  simpa using List.mem_takeWhile_imp hc

theorem readType_eq_some {fuel : Nat} {cs rest : List Char} {type : TypeName} :
    readType (fuel + 1) cs = some (type, rest) ↔
      (∃ inner args, skipBlank cs = '(' :: inner ∧ readList fuel ')' inner = some (args, rest) ∧
        type = tuple args) ∨
      ∃ raw after, spanPath (skipBlank cs) = (raw, after) ∧ normalizePath raw ≠ [] ∧
        ((∃ inner args, after = '<' :: inner ∧ readList fuel '>' inner = some (args, rest) ∧
          ofPath? (normalizePath raw) args = some type) ∨
        (after.head? ≠ some '<' ∧ after = rest ∧ ofPath? (normalizePath raw) [] = some type)) := by
  rw [readType]
  split
  · rename_i inner hopen
    -- No path starts at an opening parenthesis.
    have hraw : (spanPath (skipBlank cs)).1 = [] := by
      simp [hopen, spanPath, List.span_eq_takeWhile_dropWhile, isDelimiter]
    have hnormal : normalizePath (spanPath (skipBlank cs)).1 = [] := by
      rw [hraw]
      rfl
    constructor
    · intro h
      obtain ⟨⟨args, after⟩, hlist, heq⟩ := Option.bind_eq_some_iff.mp h
      cases heq
      exact .inl ⟨inner, args, hopen, hlist, rfl⟩
    · rintro (⟨inner', args, hinner, hlist, rfl⟩ | ⟨raw, after, hspan, hne, -⟩)
      · obtain rfl : inner = inner' := by simpa [hopen] using hinner
        rw [hlist]
        rfl
      · exact absurd (by simpa [hspan] using hnormal) hne
  · rename_i hopen
    dsimp only
    constructor
    · intro h
      refine .inr ⟨(spanPath (skipBlank cs)).1, (spanPath (skipBlank cs)).2, rfl, ?_⟩
      split at h
      · simp at h
      · rename_i hne
        refine ⟨by simpa using hne, ?_⟩
        split at h
        · rename_i inner hafter
          obtain ⟨⟨args, after⟩, hlist, hargs⟩ := Option.bind_eq_some_iff.mp h
          obtain ⟨made, hmade, heq⟩ := Option.bind_eq_some_iff.mp hargs
          cases heq
          exact .inl ⟨inner, args, hafter, hlist, hmade⟩
        · rename_i hafter
          obtain ⟨made, hmade, heq⟩ := Option.bind_eq_some_iff.mp h
          cases heq
          refine .inr ⟨?_, rfl, hmade⟩
          intro hhead
          obtain ⟨inner, hinner⟩ := List.head?_eq_some_iff.mp hhead
          exact hafter inner hinner
    · rintro (⟨inner, args, hinner, -⟩ | ⟨raw, after, hspan, hne, hcase⟩)
      · exact absurd hinner (hopen inner)
      · rw [hspan, if_neg (by simpa using hne)]
        rcases hcase with ⟨inner, args, rfl, hlist, hmade⟩ | ⟨hafter, rfl, hmade⟩
        · simp [hlist, hmade]
        · split
          · rename_i inner hinner
            obtain rfl : after = '<' :: inner := hinner
            exact absurd rfl hafter
          · simp [hmade]

theorem readList_eq_some {fuel : Nat} {close : Char} {cs rest : List Char}
    {types : List TypeName} :
    readList (fuel + 1) close cs = some (types, rest) ↔
      (skipBlank cs = close :: rest ∧ types = []) ∨
      ∃ c inner, skipBlank cs = c :: inner ∧ c ≠ close ∧
        readItems fuel close (c :: inner) = some (types, rest) := by
  rw [readList]
  split
  · simp [*]
  · rename_i c inner hskip
    rw [hskip]
    split
    · rename_i hclose
      subst hclose
      simp
      tauto
    · rename_i hclose
      simp [hclose]

theorem readItems_eq_some {fuel : Nat} {close : Char} {cs rest : List Char}
    {types : List TypeName} :
    readItems (fuel + 1) close cs = some (types, rest) ↔
      ∃ type after, readType fuel cs = some (type, after) ∧
        ((∃ inner more, skipBlank after = ',' :: inner ∧
          readItems fuel close inner = some (more, rest) ∧ types = type :: more) ∨
        (close ≠ ',' ∧ skipBlank after = close :: rest ∧ types = [type])) := by
  rw [readItems]
  constructor
  · intro h
    obtain ⟨⟨type, after⟩, htype, h⟩ := Option.bind_eq_some_iff.mp h
    refine ⟨type, after, htype, ?_⟩
    dsimp only at h
    split at h
    · simp at h
    · rename_i c inner hskip
      split at h
      · rename_i hcomma
        obtain ⟨⟨more, after⟩, hmore, heq⟩ := Option.bind_eq_some_iff.mp h
        cases heq
        exact .inl ⟨inner, more, by rw [hskip, hcomma], hmore, rfl⟩
      · rename_i hcomma
        split at h
        · rename_i hclose
          cases h
          exact .inr ⟨hclose ▸ hcomma, by rw [hskip, hclose], rfl⟩
        · simp at h
  · rintro ⟨type, after, htype, ⟨inner, more, hskip, hmore, rfl⟩ | ⟨hcomma, hskip, rfl⟩⟩
    · simp [htype, hskip, hmore]
    · simp [htype, hskip, hcomma]

/-! ## Normal types -/

/-- A type with segments in its qualifier and as its name, and so on in its arguments. -/
inductive Normal : TypeName → Prop where
  | mk {qualifiers : List (List Char)} {name : List Char} {args : List TypeName}
      (qualifiers_segments : ∀ q ∈ qualifiers, Segment q) (name_segment : Segment name)
      (name_ne_nil : name ≠ []) (args_normal : ∀ a ∈ args, Normal a) :
      Normal ⟨String.ofList (joinWith '.' qualifiers), String.ofList name, args⟩

theorem normal_of_ofPath {raw : List Char} (hraw : ∀ c ∈ raw, isDelimiter c = false)
    {args : List TypeName} (hargs : ∀ a ∈ args, Normal a) {type : TypeName}
    (h : ofPath? (normalizePath raw) args = some type) : Normal type := by
  obtain ⟨qualifiers, name, hqualifiers, hname, hne, rfl⟩ := ofPath_eq_some hraw h
  exact .mk hqualifiers hname hne hargs

theorem normal_tuple {args : List TypeName} (hargs : ∀ a ∈ args, Normal a) :
    Normal (tuple args) := by
  have hname : Segment ['T', 'u', 'p', 'l', 'e'] := by
    refine ⟨⟨?_, ?_⟩, ?_, ?_, ?_, ?_, ?_⟩
    · simp [isBlank]
    · simp [isBlank]
    · simp [Unpaired]
    · simp
    · simp [isDelimiter]
    · simp [isBlank]
    · simp [isBlank]
  exact @Normal.mk [] _ args (by simp) hname (by simp) hargs

/-- All that the readers make is normal, whatever the text and the fuel. -/
theorem normal_of_read (fuel : Nat) :
    (∀ cs type rest, readType fuel cs = some (type, rest) → Normal type) ∧
    (∀ close cs types rest, readList fuel close cs = some (types, rest) →
      ∀ t ∈ types, Normal t) ∧
    ∀ close cs types rest, readItems fuel close cs = some (types, rest) →
      ∀ t ∈ types, Normal t := by
  induction fuel with
  | zero => simp [readType, readList, readItems]
  | succ fuel ih =>
    obtain ⟨ihtype, ihlist, ihitems⟩ := ih
    refine ⟨?_, ?_, ?_⟩
    · intro cs type rest h
      rcases readType_eq_some.mp h with ⟨inner, args, -, hargs, rfl⟩ | ⟨raw, after, hspan, -, hcase⟩
      · exact normal_tuple (ihlist ')' inner args rest hargs)
      · have hraw : ∀ c ∈ raw, isDelimiter c = false := by
          simpa [hspan] using no_delimiter_spanPath (skipBlank cs)
        rcases hcase with ⟨inner, args, -, hargs, hmade⟩ | ⟨-, -, hmade⟩
        · exact normal_of_ofPath hraw (ihlist '>' inner args rest hargs) hmade
        · exact normal_of_ofPath hraw (by simp) hmade
    · intro close cs types rest h
      rcases readList_eq_some.mp h with ⟨-, rfl⟩ | ⟨c, inner, -, -, hitems⟩
      · simp
      · exact ihitems close (c :: inner) types rest hitems
    · intro close cs types rest h t ht
      obtain ⟨first, after, hfirst, hcase⟩ := readItems_eq_some.mp h
      have hnormal : Normal first := ihtype cs first after hfirst
      rcases hcase with ⟨inner, more, -, hmore, rfl⟩ | ⟨-, -, rfl⟩
      · rcases List.mem_cons.mp ht with rfl | ht
        · exact hnormal
        · exact ihitems close inner more rest hmore t ht
      · obtain rfl : t = first := by simpa using ht
        exact hnormal

theorem normal_of_parse? {cs : List Char} {type : TypeName} (h : parse? cs = some type) :
    Normal type := by
  rw [parse?] at h
  split at h
  · rename_i made rest hread
    split at h
    · cases h
      exact (normal_of_read _).1 cs type rest hread
    · simp at h
  · simp at h

/-! ## The text of a normal type -/

/-- The arguments of a type in its canonical text, with their brackets. -/
def argumentText (args : List TypeName) : List Char :=
  if args.isEmpty then [] else '<' :: (canonicalArgs args).toList ++ ['>']

/-- A path from which the readers make a type when they have its arguments. -/
structure Spells (path : List Char) (type : TypeName) : Prop where
  normalized : normalizePath path = path
  no_delimiter : ∀ c ∈ path, isDelimiter c = false
  ne_nil : path ≠ []
  head : ∀ c ∈ path.head?, isBlank c = false
  ofPath : ofPath? path type.args = some type

theorem spells_joinWith (qualifiers : List (List Char)) {name : List Char}
    (hqualifiers : ∀ q ∈ qualifiers, Segment q) (hname : Segment name) (hne : name ≠ [])
    (args : List TypeName) :
    Spells (joinWith '.' (qualifiers ++ [name]))
      ⟨String.ofList (joinWith '.' qualifiers), String.ofList name, args⟩ := by
  have hsegments : ∀ s ∈ qualifiers ++ [name], Segment s := by
    intro s hs
    rcases List.mem_append.mp hs with hs | hs
    · exact hqualifiers s hs
    · obtain rfl : s = name := by simpa using hs
      exact hname
  refine ⟨normalizePath_joinWith (by simp) hsegments, ?_, ?_, ?_, ?_⟩
  · intro c hc
    rcases mem_joinWith hc with rfl | ⟨s, hs, hc⟩
    · rfl
    · exact (hsegments s hs).no_delimiter c hc
  · rcases qualifiers with _ | ⟨q, qs⟩
    · simpa [joinWith] using hne
    · rw [joinWith_concat '.' (by simp)]
      simp
  · exact head_joinWith fun s hs => (hsegments s hs).head
  · rw [ofPath?, splitPath_joinWith qualifiers hname.no_dot]
    simp [hne]

theorem toList_canonical (qualifier name : String) (args : List TypeName) :
    (canonical ⟨qualifier, name, args⟩).toList =
      (if qualifier.isEmpty then [] else qualifier.toList ++ ['.']) ++ name.toList ++
        argumentText args := by
  simp only [canonical, argumentText, String.toList_append]
  congr 1
  · congr 1
    split <;> simp
  · split <;> simp

theorem Normal.exists_spelling {type : TypeName} (h : Normal type) :
    ∃ path, Spells path type ∧ type.canonical.toList = path ++ argumentText type.args := by
  obtain @⟨qualifiers, name, args, hqualifiers, hname, hne, -⟩ := h
  rw [toList_canonical]
  by_cases hempty : joinWith '.' qualifiers = []
  -- An empty qualifier leaves no trace in the text, even if it came from a leading dot.
  · have hspells := spells_joinWith [] (by simp) hname hne args
    refine ⟨name, ?_, by simp [hempty]⟩
    rw [hempty]
    simpa [joinWith] using hspells
  · refine ⟨joinWith '.' (qualifiers ++ [name]),
      spells_joinWith qualifiers hqualifiers hname hne args, ?_⟩
    have hqualified : qualifiers ≠ [] := by
      rintro rfl
      exact hempty rfl
    rw [joinWith_concat '.' hqualified]
    simp [hempty]

/-! ## Reading the text of a normal type -/

/-- What may follow a type: nothing, a comma or a closing bracket. -/
def Follows (rest : List Char) : Prop := ∀ c ∈ rest.head?, c = ',' ∨ c = '>'

theorem spanPath_append {path rest : List Char} (hpath : ∀ c ∈ path, isDelimiter c = false)
    (hrest : ∀ c ∈ rest.head?, isDelimiter c = true) : spanPath (path ++ rest) = (path, rest) := by
  have hstop : rest.takeWhile (fun c => !isDelimiter c) = [] ∧
      rest.dropWhile (fun c => !isDelimiter c) = rest := by
    cases rest with
    | nil => simp
    | cons c rest => simp [hrest c rfl]
  rw [spanPath, List.span_eq_takeWhile_dropWhile,
    List.takeWhile_append_of_pos (by simpa using hpath),
    List.dropWhile_append_of_pos (by simpa using hpath), hstop.1, hstop.2, List.append_nil]

theorem readType_blank {c : Char} (hc : isBlank c = true) (fuel : Nat) (cs : List Char) :
    readType fuel (c :: cs) = readType fuel cs := by
  cases fuel with
  | zero => simp [readType]
  | succ fuel => rw [readType, readType, skipBlank_blank hc]

theorem readItems_blank {c : Char} (hc : isBlank c = true) (fuel : Nat) (close : Char)
    (cs : List Char) : readItems fuel close (c :: cs) = readItems fuel close cs := by
  cases fuel with
  | zero => simp [readItems]
  | succ fuel => rw [readItems, readItems, readType_blank hc]

theorem Spells.skipBlank_append {path : List Char} {type : TypeName} (h : Spells path type)
    (rest : List Char) : skipBlank (path ++ rest) = path ++ rest := by
  obtain ⟨c, cs, rfl⟩ := List.exists_cons_of_ne_nil h.ne_nil
  exact skipBlank_cons (h.head c rfl) (cs ++ rest)

theorem Spells.readType_bare {path : List Char} {type : TypeName} (h : Spells path type)
    (hargs : type.args = []) {rest : List Char} (hrest : Follows rest) (fuel : Nat) :
    readType (fuel + 1) (path ++ rest) = some (type, rest) := by
  have hstop : ∀ c ∈ rest.head?, isDelimiter c = true := by
    intro c hc
    rcases hrest c hc with rfl | rfl <;> rfl
  have hspan : spanPath (skipBlank (path ++ rest)) = (path, rest) := by
    rw [h.skipBlank_append, spanPath_append h.no_delimiter hstop]
  refine readType_eq_some.mpr (.inr ⟨path, rest, hspan, ?_, .inr ⟨?_, rfl, ?_⟩⟩)
  · rw [h.normalized]
    exact h.ne_nil
  · intro hopen
    rcases hrest '<' hopen with h | h <;> simp at h
  · rw [h.normalized, ← hargs]
    exact h.ofPath

theorem Spells.readType_applied {path : List Char} {type : TypeName} (h : Spells path type)
    {fuel : Nat} {inner rest : List Char}
    (hlist : readList fuel '>' inner = some (type.args, rest)) :
    readType (fuel + 1) (path ++ '<' :: inner) = some (type, rest) := by
  have hstop : ∀ c ∈ ('<' :: inner).head?, isDelimiter c = true := by
    intro c hc
    obtain rfl : '<' = c := by simpa using hc
    rfl
  have hspan : spanPath (skipBlank (path ++ '<' :: inner)) = (path, '<' :: inner) := by
    rw [h.skipBlank_append, spanPath_append h.no_delimiter hstop]
  refine readType_eq_some.mpr
    (.inr ⟨path, '<' :: inner, hspan, ?_, .inl ⟨inner, type.args, rfl, hlist, ?_⟩⟩)
  · rw [h.normalized]
    exact h.ne_nil
  · rw [h.normalized]
    exact h.ofPath

/-- With three steps for each character, the canonical text of the type is read as the type. -/
def ReadsBack (type : TypeName) : Prop :=
  ∀ fuel rest, 3 * type.canonical.toList.length ≤ fuel → Follows rest →
    readType fuel (type.canonical.toList ++ rest) = some (type, rest)

theorem readItems_canonicalArgs {args : List TypeName} (hne : args ≠ [])
    (hargs : ∀ a ∈ args, ReadsBack a) (fuel : Nat)
    (hfuel : 3 * (canonicalArgs args).toList.length + 1 ≤ fuel) (rest : List Char) :
    readItems fuel '>' ((canonicalArgs args).toList ++ '>' :: rest) = some (args, rest) := by
  induction args generalizing fuel with
  | nil => exact absurd rfl hne
  | cons arg args ih =>
    obtain ⟨fuel, rfl⟩ : ∃ n, fuel = n + 1 := ⟨fuel - 1, by omega⟩
    have harg : ReadsBack arg := hargs arg (by simp)
    rcases args with _ | ⟨next, args⟩
    · rw [canonicalArgs] at hfuel ⊢
      have hread := harg fuel ('>' :: rest) (by omega) (by simp [Follows])
      exact readItems_eq_some.mpr
        ⟨arg, '>' :: rest, hread, .inr ⟨by decide, skipBlank_cons (by decide) rest, rfl⟩⟩
    · have htext : (canonicalArgs (arg :: next :: args)).toList ++ '>' :: rest =
          arg.canonical.toList ++
            ',' :: ' ' :: ((canonicalArgs (next :: args)).toList ++ '>' :: rest) := by
        simp [canonicalArgs]
      have hlength : (canonicalArgs (arg :: next :: args)).toList.length =
          arg.canonical.toList.length + 2 + (canonicalArgs (next :: args)).toList.length := by
        simp [canonicalArgs]
        omega
      have hmore := ih (by simp) (fun a ha => hargs a (List.mem_cons_of_mem arg ha))
        fuel (by omega)
      rw [htext]
      refine readItems_eq_some.mpr ⟨arg, _, harg fuel _ (by omega) (by simp [Follows]), .inl ?_⟩
      refine ⟨_, next :: args, skipBlank_cons (by decide) _, ?_, rfl⟩
      rw [readItems_blank (by decide)]
      exact hmore

theorem Normal.exists_cons {type : TypeName} (h : Normal type) :
    ∃ c cs, type.canonical.toList = c :: cs ∧ isBlank c = false ∧ isDelimiter c = false := by
  obtain ⟨path, hspells, htext⟩ := h.exists_spelling
  obtain ⟨c, cs, rfl⟩ := List.exists_cons_of_ne_nil hspells.ne_nil
  exact ⟨c, cs ++ argumentText type.args, htext, hspells.head c rfl,
    hspells.no_delimiter c (by simp)⟩

theorem canonicalArgs_cons (arg : TypeName) (args : List TypeName) :
    ∃ more, (canonicalArgs (arg :: args)).toList = arg.canonical.toList ++ more := by
  rcases args with _ | ⟨next, args⟩
  · exact ⟨[], by simp [canonicalArgs]⟩
  · exact ⟨(", " ++ canonicalArgs (next :: args)).toList, by simp [canonicalArgs]⟩

theorem readList_canonicalArgs {args : List TypeName} (hne : args ≠ [])
    (hnormal : ∀ a ∈ args, Normal a) (hargs : ∀ a ∈ args, ReadsBack a) (fuel : Nat)
    (hfuel : 3 * (canonicalArgs args).toList.length + 2 ≤ fuel) (rest : List Char) :
    readList fuel '>' ((canonicalArgs args).toList ++ '>' :: rest) = some (args, rest) := by
  obtain ⟨fuel, rfl⟩ : ∃ n, fuel = n + 1 := ⟨fuel - 1, by omega⟩
  have hitems := readItems_canonicalArgs hne hargs fuel (by omega) rest
  obtain ⟨arg, args, rfl⟩ := List.exists_cons_of_ne_nil hne
  obtain ⟨c, cs, htext, hblank, hdelimiter⟩ := (hnormal arg (by simp)).exists_cons
  obtain ⟨more, hmore⟩ := canonicalArgs_cons arg args
  rw [hmore, htext, List.cons_append, List.cons_append] at hitems ⊢
  refine readList_eq_some.mpr (.inr ⟨c, _, skipBlank_cons hblank _, ?_, hitems⟩)
  rintro rfl
  exact absurd hdelimiter (by decide)

theorem Normal.readsBack {type : TypeName} (h : Normal type) : ReadsBack type := by
  induction h with
  | @mk qualifiers name args hqualifiers hname hne hargs ih =>
    intro fuel rest hfuel hrest
    obtain ⟨path, hspells, htext⟩ := (Normal.mk hqualifiers hname hne hargs).exists_spelling
    have hpath : 0 < path.length := List.length_pos_iff.mpr hspells.ne_nil
    rw [htext] at hfuel ⊢
    rw [List.length_append] at hfuel
    obtain ⟨fuel, rfl⟩ : ∃ n, fuel = n + 1 := ⟨fuel - 1, by omega⟩
    by_cases hempty : args = []
    · have hnone : argumentText args = [] := by simp [argumentText, hempty]
      rw [hnone, List.append_nil]
      exact hspells.readType_bare hempty hrest fuel
    · have hsome : argumentText args = '<' :: ((canonicalArgs args).toList ++ ['>']) := by
        simp [argumentText, hempty]
      rw [hsome] at hfuel ⊢
      simp only [List.length_cons, List.length_append, List.length_nil] at hfuel
      have hlist := readList_canonicalArgs hempty hargs ih fuel (by omega) rest
      have hread := hspells.readType_applied hlist
      simpa using hread

theorem parse?_canonical {type : TypeName} (h : Normal type) :
    parse? type.canonical.toList = some type := by
  have hread := h.readsBack (3 * type.canonical.toList.length + 3) [] (by omega) (by simp [Follows])
  rw [List.append_nil] at hread
  simp [parse?, hread]

theorem parse_eq_ok {text : String} {type : TypeName} :
    parse text = .ok type ↔ parse? text.toList = some type := by
  rw [parse]
  split <;> simp_all

/-- A type that was read is read again from its canonical text, with the same qualifier, name and
arguments. So it differs in that text from every other type that was read, and with it in all that
is decided by the text: being the same, and how it is written. -/
theorem parse_canonical_eq {text : String} {type : TypeName} (h : parse text = .ok type) :
    parse type.canonical = .ok type ∧ ofJson? type.toJson = some type ∧
      ∀ text' other, parse text' = .ok other →
        (type.canonical = other.canonical → type = other) ∧ (type.Same other ↔ type = other) ∧
          (type.toJson = other.toJson ↔ type = other) := by
  have hread : parse? type.canonical.toList = some type :=
    parse?_canonical (normal_of_parse? (parse_eq_ok.mp h))
  refine ⟨parse_eq_ok.mpr hread, hread, ?_⟩
  intro text' other hother
  have hother : parse? other.canonical.toList = some other :=
    parse?_canonical (normal_of_parse? (parse_eq_ok.mp hother))
  have hinjective : type.canonical = other.canonical → type = other := by
    intro hsame
    rw [hsame, hother] at hread
    exact (Option.some.inj hread).symm
  refine ⟨hinjective, ⟨hinjective, ?_⟩, ⟨?_, ?_⟩⟩
  · rintro rfl
    rfl
  · intro hjson
    exact hinjective (by simpa [toJson, Json.text] using hjson)
  · rintro rfl
    rfl

/-- A type read from a text with three colons, a leading dot, blanks of all kinds, a tuple and an
empty list of arguments. -/
def gnarled : TypeName :=
  ⟨"a", ":b", [tuple [⟨"", "c", []⟩, ⟨"..x", "d e", []⟩], ⟨"", "Foo", []⟩]⟩

theorem parse_canonical_gnarled :
    parse " a:::b < ( . c, . . x :: d\t e ) ,Foo<> >" = .ok gnarled ∧
      parse gnarled.canonical = .ok gnarled ∧ ofJson? gnarled.toJson = some gnarled ∧
      ∀ text' other, parse text' = .ok other →
        (gnarled.canonical = other.canonical → gnarled = other) ∧
          (gnarled.Same other ↔ gnarled = other) ∧
          (gnarled.toJson = other.toJson ↔ gnarled = other) := by
  have hparse : parse " a:::b < ( . c, . . x :: d\t e ) ,Foo<> >" = .ok gnarled := by cbv
  exact ⟨hparse, parse_canonical_eq hparse⟩

end TypeName

end DeclTree

import RowQuery.Proofs.Unbound

/-! Quoted identifiers read back. Read from outside of quotes, a quoted identifier is one segment from
its first character to its last, whatever its name is, and the name is what stands between with every
doubled backtick taken once. Dotted identifiers are read as segments separated by points, so two of
them are written alike exactly when their parts are the same. -/

namespace RowQuery.Sql

open Quoting

/-! ### Segments -/

/-- The quote of the segment that the reader of placeholders is in after each character, where `quote`
is that of the segment the text starts in. An escaped character and a doubled quote are read together
with the character before them. -/
def quotesAfter : (quote : Option Char) → List Char → List (Option Char)
  | _, [] => []
  | none, c :: cs =>
    if isQuote c then some c :: quotesAfter (some c) cs else none :: quotesAfter none cs
  | some q, [c] =>
    if c = backslash ∧ q ≠ backtick then [some q] else if c = q then [none] else [some q]
  | some q, c :: d :: cs =>
    if c = backslash ∧ q ≠ backtick then some q :: some q :: quotesAfter (some q) cs
    else if c = q then
      if d = q then some q :: some q :: quotesAfter (some q) cs
      else none :: quotesAfter none (d :: cs)
    else some q :: quotesAfter (some q) (d :: cs)

/-- The question marks that stand outside of segments, by their offsets from `i` on; each character is
given with the quote before it. -/
def marksOutside (i : Nat) (cs : List (Char × Option Char)) : List Nat :=
  (cs.zipIdx i).filterMap fun p => if p.1 = ('?', none) then some p.2 else none

theorem marksOutside_cons (i : Nat) (c : Char) (quote : Option Char)
    (cs : List (Char × Option Char)) : marksOutside i ((c, quote) :: cs) =
      if c = '?' ∧ quote = none then i :: marksOutside (i + 1) cs else marksOutside (i + 1) cs := by
  rw [marksOutside, List.zipIdx_cons, List.filterMap_cons, marksOutside]
  by_cases h : c = '?' ∧ quote = none
  · obtain ⟨rfl, rfl⟩ := h
    simp
  · simp [h]

theorem marksOutside_inside (i : Nat) (c q : Char) (cs : List (Char × Option Char)) :
    marksOutside i ((c, some q) :: cs) = marksOutside (i + 1) cs := by
  simp [marksOutside_cons]

/-- Placeholders are the question marks outside of segments. -/
theorem placeholdersFrom_eq_marksOutside (quote : Option Char) (i : Nat) (cs : List Char) :
    placeholdersFrom quote i cs = marksOutside i (cs.zip (quote :: quotesAfter quote cs)) := by
  fun_induction placeholdersFrom quote i cs with
  | case1 quote i => rfl
  | case2 i c cs hc ih =>
    have hm : ¬ c = '?' := by
      rintro rfl
      revert hc
      decide
    rw [quotesAfter, if_pos hc, List.zip_cons_cons, marksOutside_cons, if_neg fun h => hm h.1, ih]
  | case3 i cs hc ih =>
    rw [quotesAfter, if_neg hc, List.zip_cons_cons, marksOutside_cons, if_pos ⟨rfl, rfl⟩, ih]
  | case4 i c cs hc hm ih =>
    rw [quotesAfter, if_neg hc, List.zip_cons_cons, marksOutside_cons, if_neg fun h => hm h.1, ih]
  | case5 q i c hb =>
    rw [List.zip_cons_cons, marksOutside_inside]
    rfl
  | case6 q i c hb d rest ih =>
    rw [quotesAfter, if_pos hb]
    simp only [List.zip_cons_cons, marksOutside_inside, ih]
  | case7 i q hb =>
    rw [List.zip_cons_cons, marksOutside_inside]
    rfl
  | case8 i q rest hb ih =>
    rw [quotesAfter, if_neg hb, if_pos rfl, if_pos rfl]
    simp only [List.zip_cons_cons, marksOutside_inside, ih]
  | case9 i q d rest hb hd ih =>
    rw [quotesAfter, if_neg hb, if_pos rfl, if_neg hd, List.zip_cons_cons, marksOutside_inside, ih]
  | case10 q i c cs hb hc ih =>
    rw [List.zip_cons_cons, marksOutside_inside, ih]
    cases cs with
    | nil => rfl
    | cons d cs => rw [quotesAfter, if_neg hb, if_neg hc]

/-- Inside of backticks, doubled ones are passed over; the one after them leaves the segment, unless
another one follows. -/
theorem quotesAfter_double (cs : List Char) {rest : List Char} (h : rest.head? ≠ some backtick) :
    quotesAfter (some backtick) (double cs ++ backtick :: rest) =
      List.replicate (double cs).length (some backtick) ++ none :: quotesAfter none rest := by
  have hb : ∀ c, ¬ (c = backslash ∧ backtick ≠ backtick) := fun _ h => h.2 rfl
  induction cs with
  | nil =>
    cases rest with
    | nil => rfl
    | cons d rest =>
      have hd : d ≠ backtick := fun hd => h (congrArg some hd)
      exact (if_neg (hb _)).trans ((if_pos rfl).trans (if_neg hd))
  | cons c cs ih =>
    rw [double]
    split_ifs with hc
    · rw [List.cons_append, List.cons_append, quotesAfter, if_neg (hb _), if_pos rfl, if_pos rfl, ih]
      rfl
    · obtain ⟨d, ds, hds⟩ : ∃ d ds, double cs ++ backtick :: rest = d :: ds :=
        List.exists_cons_of_ne_nil (List.append_ne_nil_of_right_ne_nil _ (List.cons_ne_nil _ _))
      rw [List.cons_append, hds, quotesAfter, if_neg (hb _), if_neg hc, ← hds, ih]
      rfl

/-! ### Names -/

/-- A text with every doubled backtick taken once. -/
def undouble : List Char → List Char
  | [] => []
  | [c] => [c]
  | c :: d :: cs =>
    if c = backtick ∧ d = backtick then backtick :: undouble cs else c :: undouble (d :: cs)

theorem undouble_cons_of_ne {c : Char} (h : c ≠ backtick) (cs : List Char) :
    undouble (c :: cs) = c :: undouble cs := by
  cases cs with
  | nil => rfl
  | cons d cs => rw [undouble, if_neg fun hc => h hc.1]

theorem undouble_double (cs : List Char) : undouble (double cs) = cs := by
  induction cs with
  | nil => rfl
  | cons c cs ih =>
    rw [double]
    split_ifs with hc
    · rw [undouble, if_pos ⟨rfl, rfl⟩, ih, hc]
    · rw [undouble_cons_of_ne hc, ih]

/-- Reads names between backticks that are separated by points, from inside of the first one: what is
left of that name, and the names after it. -/
def readInside : List Char → Option (List Char × List (List Char))
  | [] => none
  | [c] => if c = backtick then some ([], []) else none
  | c :: d :: cs =>
    if c = backtick then
      if d = backtick then (readInside cs).map fun p => (backtick :: p.1, p.2)
      else match cs with
        | [] => none
        | e :: rest =>
          if d = '.' ∧ e = backtick then (readInside rest).map fun p => ([], p.1 :: p.2) else none
    else (readInside (d :: cs)).map fun p => (c :: p.1, p.2)

/-- The names of a dotted identifier, as characters. -/
def readNames : List Char → Option (List (List Char))
  | [] => none
  | c :: cs => if c = backtick then (readInside cs).map fun p => p.1 :: p.2 else none

/-- The names of a dotted identifier. -/
def readDotted (s : String) : Option (List String) :=
  (readNames s.toList).map fun names => names.map String.ofList

theorem readInside_doubled (cs : List Char) : readInside (backtick :: backtick :: cs) =
    (readInside cs).map fun p => (backtick :: p.1, p.2) := by
  rw [readInside.eq_def]
  exact (if_pos rfl).trans (if_pos rfl)

theorem readInside_cons_of_ne {c : Char} (hc : c ≠ backtick) (cs : List Char) :
    readInside (c :: cs) = (readInside cs).map fun p => (c :: p.1, p.2) := by
  rw [readInside.eq_def]
  cases cs with
  | nil => exact if_neg hc
  | cons d cs => exact if_neg hc

theorem readInside_next (cs : List Char) : readInside (backtick :: '.' :: backtick :: cs) =
    (readInside cs).map fun p => ([], p.1 :: p.2) := by
  rw [readInside.eq_def]
  exact (if_pos rfl).trans ((if_neg (by decide)).trans (if_pos ⟨rfl, rfl⟩))

/-- Doubled characters are read as the name they came from, whatever follows. -/
theorem readInside_double (cs rest : List Char) :
    readInside (double cs ++ rest) = (readInside rest).map fun p => (cs ++ p.1, p.2) := by
  induction cs with
  | nil => simp [double]
  | cons c cs ih =>
    rw [double]
    split_ifs with hc
    · rw [List.cons_append, List.cons_append, readInside_doubled, ih, Option.map_map, hc]
      rfl
    · rw [List.cons_append, readInside_cons_of_ne hc, ih, Option.map_map]
      rfl

/-- Names that are quoted and joined by points are read back. -/
theorem readNames_join (name : String) (names : List String) :
    readNames (Text.join "." ((name :: names).map quote)).toList =
      some (name.toList :: names.map String.toList) := by
  induction names generalizing name with
  | nil =>
    change readNames (quote name).toList = _
    rw [toList_quote, readNames, if_pos rfl, readInside_double]
    simp [readInside]
  | cons next names ih =>
    obtain ⟨rest, hrest⟩ : ∃ rest,
        (Text.join "." ((next :: names).map quote)).toList = backtick :: rest := by
      cases names with
      | nil => exact ⟨_, toList_quote next⟩
      | cons n ns =>
        rw [List.map_cons, List.map_cons, join_cons_cons, String.toList_append,
          String.toList_append, toList_quote]
        exact ⟨_, rfl⟩
    have hnext := ih next
    rw [hrest, readNames, if_pos rfl, Option.map_eq_some_iff] at hnext
    obtain ⟨p, hp, heq⟩ := hnext
    have htext : (Text.join "." ((name :: next :: names).map quote)).toList =
        backtick :: (double name.toList ++ backtick :: '.' :: backtick :: rest) := by
      rw [List.map_cons, List.map_cons, join_cons_cons, ← List.map_cons, String.toList_append,
        String.toList_append, hrest, toList_quote]
      simp
    rw [htext, readNames, if_pos rfl, readInside_double, readInside_next, hp]
    simp [← heq]

theorem readDotted_join {names : List String} (h : names ≠ []) :
    readDotted (Text.join "." (names.map quote)) = some names := by
  obtain ⟨name, names, rfl⟩ := List.exists_cons_of_ne_nil h
  rw [readDotted, readNames_join, Option.map_some]
  simp

/-! ### Identifiers -/

/-- The parts of a dotted identifier, trimmed. -/
def partsOf (name : String) : List String := (Text.split '.' name).map Text.trim

theorem splitChars_ne_nil (c : Char) (cs : List Char) : Text.splitChars c cs ≠ [] := by
  cases cs with
  | nil => exact List.cons_ne_nil _ _
  | cons d cs =>
    rw [Text.splitChars]
    split_ifs
    · exact List.cons_ne_nil _ _
    · split <;> exact List.cons_ne_nil _ _

theorem partsOf_ne_nil (name : String) : partsOf name ≠ [] := by
  simpa [partsOf, Text.split] using splitChars_ne_nil '.' name.toList

theorem quoteDotted_eq (name : String) :
    quoteDotted name = Text.join "." ((partsOf name).map quote) := by
  rw [quoteDotted, partsOf, List.map_map]
  rfl

theorem placeholdersFrom_quote (i : Nat) (name : String) (rest : List Char) :
    placeholdersFrom none i ((quote name).toList ++ rest) =
      placeholdersFrom none (i + (quote name).toList.length) rest := by
  have hb := quote_binds name
  have hn : outside.offsets i (quote name).toList = [] := by
    rw [← List.length_eq_zero_iff, length_offsets, hb.count_eq]
  rw [placeholdersFrom_eq_offsets none (by simp), placeholdersFrom_eq_offsets none (by simp),
    ofQuote, offsets_append, hn, hb.run_eq, List.nil_append]

/-- From outside of quotes, a quoted identifier is one segment from its first character to its last,
unless a backtick follows it; no question mark in it is a placeholder, and its name is read back. A
dotted one is read back as its parts, so two are written alike exactly when these are the same. -/
theorem quoted_identifiers_read_back (name : String) :
    (∀ rest : List Char, rest.head? ≠ some backtick →
      quotesAfter none ((quote name).toList ++ rest) =
        List.replicate ((quote name).toList.length - 1) (some backtick) ++
          none :: quotesAfter none rest) ∧
    (∀ i rest, placeholdersFrom none i ((quote name).toList ++ rest) =
      placeholdersFrom none (i + (quote name).toList.length) rest) ∧
    (∃ inner, (quote name).toList = backtick :: (inner ++ [backtick]) ∧
      undouble inner = name.toList) ∧
    readDotted (quoteDotted name) = some (partsOf name) ∧
    ∀ other, quoteDotted other = quoteDotted name ↔ partsOf other = partsOf name := by
  have hread : ∀ name, readDotted (quoteDotted name) = some (partsOf name) := fun name => by
    rw [quoteDotted_eq, readDotted_join (partsOf_ne_nil name)]
  refine ⟨fun rest h => ?_, fun i rest => placeholdersFrom_quote i name rest,
    ⟨_, toList_quote name, undouble_double _⟩, hread name, fun other => ⟨fun h => ?_, fun h => ?_⟩⟩
  · have hlen : (quote name).toList.length - 1 = (double name.toList).length + 1 := by
      simp [toList_quote]
    have hb : isQuote backtick = true := by decide
    rw [hlen, toList_quote, List.cons_append, List.append_assoc, List.singleton_append, quotesAfter,
      if_pos hb, quotesAfter_double _ h]
    rfl
  · have hparts := (hread other).symm.trans ((congrArg readDotted h).trans (hread name))
    exact Option.some.inj hparts
  · rw [quoteDotted_eq, quoteDotted_eq, h]

theorem quoteInName_reads_back :
    " = ?".toList.head? ≠ some backtick ∧
    quotesAfter none ((quote "a`?.'\\`").toList ++ " = ?".toList) =
      List.replicate 10 (some backtick) ++ List.replicate 5 none ∧
    placeholdersFrom none 0 ((quote "a`?.'\\`").toList ++ " = ?".toList) = [14] ∧
    readDotted (quoteDotted "a`?. '\\`") = some ["a`?", "'\\`"] := by
  have hrest : " = ?".toList.head? ≠ some backtick := by decide
  obtain ⟨hsegment, hmarks, -⟩ := quoted_identifiers_read_back "a`?.'\\`"
  obtain ⟨-, -, -, hread, -⟩ := quoted_identifiers_read_back "a`?. '\\`"
  exact ⟨hrest, (hsegment _ hrest).trans (by decide), (hmarks 0 _).trans (by decide),
    hread.trans (by decide)⟩

end RowQuery.Sql

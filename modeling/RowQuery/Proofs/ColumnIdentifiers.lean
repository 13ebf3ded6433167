import RowQuery.Proofs.QuotedNames
import RowQuery.Proofs.SelectList
import RowQuery.Proofs.WellFormed

/-! The identifiers of a grouping or an ordering. Columns are told apart by their names as a whole,
and an identifier is written part by part, each part trimmed. So a list of different columns is
written as different identifiers exactly when no two of its columns have the same trimmed parts, and
without empty names exactly when no column has a blank part. Columns without points always are. -/

namespace RowQuery

open Sql

namespace Sql

/-! ### Parts -/

theorem splitChars_of_not_mem {sep : Char} {cs : List Char} (h : sep ∉ cs) :
    Text.splitChars sep cs = [cs] := by
  induction cs with
  | nil => rfl
  | cons c cs ih =>
    rw [List.mem_cons, not_or] at h
    rw [Text.splitChars, if_neg (Ne.symm h.1), ih h.2]

/-- A column without points is one part. -/
theorem partsOf_of_not_mem {c : String} (h : '.' ∉ c.toList) : partsOf c = [Text.trim c] := by
  rw [partsOf, Text.split, splitChars_of_not_mem h]
  simp

theorem readDotted_quoteDotted (name : String) :
    readDotted (quoteDotted name) = some (partsOf name) := by
  rw [quoteDotted_eq, readDotted_join (partsOf_ne_nil name)]

theorem quoteDotted_inj {c d : String} : quoteDotted c = quoteDotted d ↔ partsOf c = partsOf d := by
  constructor
  · intro h
    have hread := congrArg readDotted h
    rw [readDotted_quoteDotted, readDotted_quoteDotted] at hread
    exact Option.some.inj hread
  · intro h
    rw [quoteDotted_eq, quoteDotted_eq, h]

/-! ### Lists of identifiers -/

theorem join_isItem {sep : String} (hsep : IsItem sep.toList) :
    ∀ {items : List String}, (∀ s ∈ items, IsItem s.toList) → IsItem (Text.join sep items).toList
  | [], _ => .nil
  | [s], h => h s List.mem_cons_self
  | s :: t :: items, h => by
    have ht := join_isItem hsep fun u hu => h u (List.mem_cons_of_mem s hu)
    rw [join_cons_cons, String.toList_append, String.toList_append]
    exact ((h s List.mem_cons_self).append hsep).append ht

theorem quoteDotted_isItem (name : String) : IsItem (quoteDotted name).toList := by
  refine join_isItem (by decide) fun s hs => ?_
  obtain ⟨part, -, rfl⟩ := List.mem_map.mp hs
  exact quote_isItem _

/-- The identifiers of some columns: read back as their parts, different where these are, and without
empty names where these are not blank. -/
structure Identify (columns ids : List String) : Prop where
  read_eq : ids.map readDotted = columns.map fun c => some (partsOf c)
  nodup_iff : ids.Nodup ↔ ∀ c ∈ columns, ∀ d ∈ columns, partsOf c = partsOf d → c = d
  named_iff : (∀ id ∈ ids, ∀ parts, readDotted id = some parts → "" ∉ parts) ↔
    ∀ c ∈ columns, "" ∉ partsOf c

theorem identify_quoteDotted {columns : List String} (h : columns.Nodup) :
    Identify columns (columns.map quoteDotted) where
  read_eq := by
    rw [List.map_map]
    exact List.map_congr_left fun c _ => readDotted_quoteDotted c
  nodup_iff := by
    rw [List.nodup_map_iff_inj_on h]
    simp only [quoteDotted_inj]
  named_iff := by
    simp [readDotted_quoteDotted]

end Sql

open Sql

/-- A column that was read and has no points is its own only part. -/
theorem IsColumn.partsOf_eq {c : String} (h : IsColumn c) (hp : '.' ∉ c.toList) :
    partsOf c = [c] := by
  rw [partsOf_of_not_mem hp, h.1]

/-- Columns without points are written as different identifiers without empty names. -/
theorem IsColumnList.identify {columns ids : List String} (h : IsColumnList columns)
    (hi : Identify columns ids) (hp : ∀ c ∈ columns, '.' ∉ c.toList) :
    ids.Nodup ∧ ∀ id ∈ ids, ∀ parts, readDotted id = some parts → "" ∉ parts := by
  rw [hi.nodup_iff, hi.named_iff]
  constructor
  · intro c hc d hd hparts
    rw [(h.column c hc).partsOf_eq (hp c hc), (h.column d hd).partsOf_eq (hp d hd)] at hparts
    exact (List.cons.inj hparts).1
  · intro c hc hempty
    rw [(h.column c hc).partsOf_eq (hp c hc), List.mem_singleton] at hempty
    exact (h.column c hc).2 hempty.symm

/-! ### Groupings and orderings -/

/-- A grouping is the list of the identifiers of its columns. -/
theorem Grouping.sql_items {g : Grouping} (hne : g ≠ []) (keyword : String) :
    g.sql keyword = keyword ++ " " ++ Text.join ", " (g.map quoteDotted) ∧
      splitList (Text.join ", " (g.map quoteDotted)) = spaced (g.map quoteDotted) := by
  refine ⟨rfl, splitList_join (by simpa using hne) fun s hs => ?_⟩
  obtain ⟨c, -, rfl⟩ := List.mem_map.mp hs
  exact quoteDotted_isItem c

/-- An identifier before the direction of its column. -/
def directed (id : String) (p : String × Direction) : String := id ++ " " ++ p.2.word

/-- An ordering is the list of the identifiers of its columns, each before its direction. -/
theorem Ordering.sql_items {o : Ordering} (hne : o ≠ []) (keyword : String) :
    o.sql keyword = keyword ++ " " ++
        Text.join ", " (List.zipWith directed ((Keyed.keys o).map quoteDotted) o) ∧
      splitList (Text.join ", " (List.zipWith directed ((Keyed.keys o).map quoteDotted) o)) =
        spaced (List.zipWith directed ((Keyed.keys o).map quoteDotted) o) := by
  have hitems : List.zipWith directed ((Keyed.keys o).map quoteDotted) o =
      o.map fun p => quoteDotted p.1 ++ " " ++ p.2.word := by
    rw [Keyed.keys, List.map_map, List.zipWith_map_left, List.zipWith_self]
    rfl
  rw [hitems]
  refine ⟨rfl, splitList_join (by simpa using hne) fun s hs => ?_⟩
  obtain ⟨p, -, rfl⟩ := List.mem_map.mp hs
  have hblank : IsItem " ".toList := by decide
  have hword : ∀ d : Direction, IsItem d.word.toList := by
    intro d
    cases d <;> decide
  rw [String.toList_append, String.toList_append]
  exact ((quoteDotted_isItem p.1).append hblank).append (hword p.2)

/-- The items of a grouping and of an ordering that were read are the identifiers of their columns.
These are pairwise different exactly when no two columns have the same trimmed parts, and have no
empty name exactly when no column has a blank part; both hold of columns without points. -/
theorem identifiers_of_read (v direction : Value) (keyword : String) :
    (∀ g, Grouping.read v = .ok (some g) → ∃ ids,
      g.sql keyword = keyword ++ " " ++ Text.join ", " ids ∧
      splitList (Text.join ", " ids) = spaced ids ∧ Identify g ids ∧
      ((∀ c ∈ g, '.' ∉ c.toList) →
        ids.Nodup ∧ ∀ id ∈ ids, ∀ parts, readDotted id = some parts → "" ∉ parts)) ∧
    ∀ o, Ordering.read v direction = .ok (some o) → ∃ ids,
      o.sql keyword = keyword ++ " " ++ Text.join ", " (List.zipWith directed ids o) ∧
      splitList (Text.join ", " (List.zipWith directed ids o)) =
        spaced (List.zipWith directed ids o) ∧
      Identify (Keyed.keys o) ids ∧
      ((∀ c ∈ Keyed.keys o, '.' ∉ c.toList) →
        ids.Nodup ∧ ∀ id ∈ ids, ∀ parts, readDotted id = some parts → "" ∉ parts) := by
  constructor
  · intro g h
    have hg := Grouping.read_eq_some h
    have hi := identify_quoteDotted hg.nodup
    obtain ⟨hsql, hsplit⟩ := Grouping.sql_items hg.ne_nil keyword
    exact ⟨_, hsql, hsplit, hi, hg.identify hi⟩
  · intro o h
    have ho := Ordering.read_eq_some h
    have hi := identify_quoteDotted ho.nodup
    have hne : o ≠ [] := by
      rintro rfl
      exact ho.ne_nil rfl
    obtain ⟨hsql, hsplit⟩ := Ordering.sql_items hne keyword
    exact ⟨_, hsql, hsplit, hi, ho.identify hi⟩

/-- Columns with two spellings of one identifier. -/
def respelledColumns : Value := .list [.text "u.name", .text "id", .text "u . name"]

theorem respelledColumns_read : Ordering.read respelledColumns .null =
    .ok (some [("u.name", .ascending), ("id", .ascending), ("u . name", .ascending)]) := rfl

theorem respelledColumns_identified :
    Grouping.read respelledColumns = .ok (some ["u.name", "id", "u . name"]) ∧
      Ordering.read respelledColumns .null =
        .ok (some [("u.name", .ascending), ("id", .ascending), ("u . name", .ascending)]) ∧
      (∃ ids, Grouping.sql "GROUP BY" ["u.name", "id", "u . name"] =
        "GROUP BY" ++ " " ++ Text.join ", " ids ∧ Identify ["u.name", "id", "u . name"] ids) ∧
      ∃ ids, Identify ["u.name", "id", "u . name"] ids ∧ ¬ ids.Nodup := by
  obtain ⟨hgrouping, -⟩ := identifiers_of_read respelledColumns .null "GROUP BY"
  obtain ⟨-, hordering⟩ := identifiers_of_read respelledColumns .null "ORDER BY"
  obtain ⟨ids, hsql, -, hi, -⟩ := hgrouping _ rfl
  obtain ⟨ids', -, -, hi', -⟩ := hordering _ respelledColumns_read
  refine ⟨rfl, respelledColumns_read, ⟨ids, hsql, hi⟩, ids', hi', fun hnodup => ?_⟩
  have hsame : partsOf "u.name" = partsOf "u . name" := by decide
  have hdiff := hi'.nodup_iff.mp hnodup "u.name" (by decide) "u . name" (by decide) hsame
  exact absurd hdiff (by decide)

/-- A column that is spelled with blanks around its point is sorted by twice. -/
theorem respelledColumn_twice :
    Ordering.read (.list [.text "a.b", .text "a . b"]) .null =
      .ok (some [("a.b", .ascending), ("a . b", .ascending)]) ∧
    Ordering.sql "ORDER BY" [("a.b", .ascending), ("a . b", .ascending)] =
      "ORDER BY `a`.`b` ASC, `a`.`b` ASC" ∧
    ¬ (["a.b", "a . b"].map quoteDotted).Nodup := by
  exact ⟨rfl, rfl, by decide⟩

end RowQuery

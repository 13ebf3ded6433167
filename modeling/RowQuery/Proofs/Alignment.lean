import RowQuery.Proofs.Clauses
import RowQuery.Proofs.Unbound
import RowQuery.Sql.Statement

/-! Whole statements stay aligned with their values. Every statement writes identifiers, modifiers
and keywords around the assigned columns, the conditions on rows and those on groups. None of the
texts around them binds anything, whatever the identifiers are, so the placeholders of a statement
are those of its columns and conditions, in the order of their values. -/

namespace RowQuery

open Sql Quoting

/-! ### Assignments -/

/-- A text, and the empty one for other values. -/
def Value.asText : Value → String
  | .text s => s
  | _ => ""

/-- The entries of a mapping, and none for other values. -/
def Value.asEntries : Value → List (Value × Value)
  | .map entries => entries
  | _ => []

namespace Sql

/-- The assignment of a value to a column. -/
def assigned (entry : Value × Value) : BoundSql :=
  ⟨quote (entry.1.asText) ++ " = ?", [entry.2]⟩

def assignmentFragments : List (Value × Value) → List Fragment
  | [] => []
  | [e] => [.bound (assigned e)]
  | e :: es => .bound (assigned e) :: .plain ", " :: assignmentFragments es

/-- A mapping of columns with names to values, at least one. -/
def IsAssignment (values : Value) : Prop :=
  ∃ entries, values = .map entries ∧ entries ≠ [] ∧ ∀ e ∈ entries, ∃ s, e.1 = .text s ∧ s ≠ ""

theorem assigned_aligned (e : Value × Value) : (Fragment.bound (assigned e)).IsAligned := by
  have hq := quote_binds (e.1.asText)
  have hm : Binds " = ?".toList 1 := by decide
  have h := hq.append hm
  rwa [← String.toList_append] at h

theorem assignmentFragments_aligned :
    ∀ {es : List (Value × Value)}, ∀ f ∈ assignmentFragments es, f.IsAligned
  | [], f, h => absurd h List.not_mem_nil
  | [e], f, h => by
    obtain rfl := List.mem_singleton.mp h
    exact assigned_aligned e
  | e :: d :: es, f, h => by
    rcases List.mem_cons.mp h with rfl | h
    · exact assigned_aligned e
    · rcases List.mem_cons.mp h with rfl | h
      · exact (by decide : Binds ", ".toList 0)
      · exact assignmentFragments_aligned f h

theorem assignmentFragments_cons_cons (e d : Value × Value) (es : List (Value × Value)) :
    assignmentFragments (e :: d :: es) =
      .bound (assigned e) :: .plain ", " :: assignmentFragments (d :: es) := rfl

theorem bound?_assignmentFragments :
    ∀ es : List (Value × Value),
      (assignmentFragments es).filterMap Fragment.bound? = es.map assigned
  | [] => rfl
  | [_] => rfl
  | e :: d :: es => by
    have hb : Fragment.bound? (.bound (assigned e)) = some (assigned e) := rfl
    have hp : Fragment.bound? (.plain ", ") = none := rfl
    rw [assignmentFragments_cons_cons, List.filterMap_cons_some hb, List.filterMap_cons_none hp,
      bound?_assignmentFragments (d :: es)]
    rfl

theorem textOf_assignmentFragments :
    ∀ es : List (Value × Value), Fragment.textOf (assignmentFragments es) =
      (Text.join ", " (es.map fun e => quote (e.1.asText) ++ " = ?")).toList
  | [] => rfl
  | [e] => by simp [assignmentFragments, Text.join, assigned]
  | e :: d :: es => by
    rw [assignmentFragments_cons_cons, Fragment.textOf_cons, Fragment.textOf_cons,
      textOf_assignmentFragments (d :: es), List.map_cons, List.map_cons, List.map_cons,
      join_cons_cons, String.toList_append, String.toList_append, List.append_assoc]
    rfl

theorem argsOf_assignmentFragments (es : List (Value × Value)) :
    Fragment.argsOf (assignmentFragments es) = es.map (·.2) := by
  rw [Fragment.argsOf_eq, bound?_assignmentFragments, List.flatMap_map]
  exact (List.map_eq_flatMap ..).symm

theorem assignedColumn_eq_ok {v : Value} {s : String} (h : assignedColumn v = .ok s) :
    s = v.asText := by
  unfold assignedColumn at h
  split at h
  · split_ifs at h
    exact (Except.ok.inj h).symm
  · contradiction

/-- Assignments are made of one fragment for each column. -/
theorem assignments_eq_ok {values : Value} {text : String} {args : List Value}
    (h : assignments values = .ok (text, args)) :
    Fragment.textOf (assignmentFragments values.asEntries) = text.toList ∧
      Fragment.argsOf (assignmentFragments values.asEntries) = args := by
  unfold assignments at h
  split at h
  · contradiction
  · rename_i entries _
    obtain ⟨columns, hc, h⟩ := Result.bind_eq_ok.mp h
    obtain ⟨rfl, rfl⟩ := Prod.mk.inj (Except.ok.inj h)
    have hn := Result.eq_map_of_mapM (fun _ _ => assignedColumn_eq_ok) hc
    rw [Value.asEntries, textOf_assignmentFragments, argsOf_assignmentFragments, hn, List.map_map]
    exact ⟨rfl, rfl⟩
  · contradiction

theorem IsAssignment.assignments_ok {values : Value} (h : IsAssignment values) :
    ∃ text args, assignments values = .ok (text, args) := by
  obtain ⟨entries, rfl, hne, hcol⟩ := h
  have hc : ∃ columns, entries.mapM (fun e => assignedColumn e.1) = .ok columns := by
    clear hne
    induction entries with
    | nil => exact ⟨[], rfl⟩
    | cons e es ih =>
      obtain ⟨s, hs, hn⟩ := hcol e List.mem_cons_self
      obtain ⟨columns, hc⟩ := ih fun d hd => hcol d (List.mem_cons_of_mem e hd)
      have he : assignedColumn e.1 = .ok s := by
        rw [hs, assignedColumn, if_neg (by simpa using hn)]
      exact ⟨s :: columns, by rw [List.mapM_cons, he, hc]; rfl⟩
  obtain ⟨columns, hc⟩ := hc
  rw [assignments, hc]
  · exact ⟨_, _, rfl⟩
  · exact hne

end Sql

/-! ### Statements -/

namespace Sql

variable {table : String} {o : Options} {columns values : Value} {b : BoundSql}

theorem select_eq_ok : select table o columns = .ok b ↔
    ∃ clauses items, o.assemble Clause.reading "fetch" = .ok clauses ∧
      projection columns = .ok items ∧
      b = ⟨"SELECT " ++ items ++ " FROM " ++ quote table ++ clauses.sql, clauses.args⟩ := by
  unfold select
  rw [Result.bind_eq_ok]
  constructor
  · rintro ⟨clauses, hc, h⟩
    obtain ⟨items, hi, h⟩ := Result.bind_eq_ok.mp h
    exact ⟨clauses, items, hc, Result.mapError_eq_ok.mp hi, (Result.pure_eq_ok.mp h).symm⟩
  · rintro ⟨clauses, items, hc, hi, rfl⟩
    exact ⟨clauses, hc, Result.bind_eq_ok.mpr ⟨items, Result.mapError_eq_ok.mpr hi, rfl⟩⟩

theorem count_eq_ok : count table o = .ok b ↔
    ∃ clauses, o.assemble Clause.reading "count" = .ok clauses ∧
      b = ⟨"SELECT COUNT(*) FROM " ++ quote table ++ clauses.sql, clauses.args⟩ := by
  unfold count
  rw [Result.bind_eq_ok]
  constructor
  · rintro ⟨clauses, hc, h⟩
    exact ⟨clauses, hc, (Result.pure_eq_ok.mp h).symm⟩
  · rintro ⟨clauses, hc, rfl⟩
    exact ⟨clauses, hc, rfl⟩

theorem update_eq_ok : update table o values = .ok b ↔
    ∃ clauses text args, o.assemble Clause.writing "set" = .ok clauses ∧
      assignments values = .ok (text, args) ∧
      b = ⟨"UPDATE " ++ quote table ++ " SET " ++ text ++ clauses.sql, args ++ clauses.args⟩ := by
  unfold update
  rw [Result.bind_eq_ok]
  constructor
  · rintro ⟨clauses, hc, h⟩
    obtain ⟨⟨text, args⟩, hv, h⟩ := Result.bind_eq_ok.mp h
    exact ⟨clauses, text, args, hc, Result.mapError_eq_ok.mp hv, (Result.pure_eq_ok.mp h).symm⟩
  · rintro ⟨clauses, text, args, hc, hv, rfl⟩
    exact ⟨clauses, hc, Result.bind_eq_ok.mpr ⟨(text, args), Result.mapError_eq_ok.mpr hv, rfl⟩⟩

theorem delete_eq_ok : delete table o = .ok b ↔
    ∃ clauses, o.assemble Clause.writing "delete" = .ok clauses ∧
      b = ⟨"DELETE FROM " ++ quote table ++ clauses.sql, clauses.args⟩ := by
  unfold delete
  rw [Result.bind_eq_ok]
  constructor
  · rintro ⟨clauses, hc, h⟩
    exact ⟨clauses, hc, (Result.pure_eq_ok.mp h).symm⟩
  · rintro ⟨clauses, hc, rfl⟩
    exact ⟨clauses, hc, rfl⟩

theorem insert_eq_ok : insert table values = .ok b ↔
    ∃ text args, assignments values = .ok (text, args) ∧
      b = ⟨"INSERT INTO " ++ quote table ++ " SET " ++ text, args⟩ := by
  unfold insert
  rw [Result.bind_eq_ok]
  constructor
  · rintro ⟨⟨text, args⟩, hv, h⟩
    exact ⟨text, args, Result.mapError_eq_ok.mp hv, (Result.pure_eq_ok.mp h).symm⟩
  · rintro ⟨text, args, hv, rfl⟩
    exact ⟨(text, args), Result.mapError_eq_ok.mpr hv, rfl⟩

end Sql

/-- What a statement selects for columns. -/
def itemsOf (columns : Value) : String :=
  match projection columns with
  | .ok items => items
  | .error _ => ""

theorem itemsOf_eq {columns : Value} {items : String} (h : projection columns = .ok items) :
    itemsOf columns = items := by
  rw [itemsOf, h]

/-- The kinds of statements, with what each is given besides a table and options. -/
inductive Statement
  | select (columns : Value)
  | count
  | update (values : Value)
  | delete
  | insert (values : Value)

namespace Statement

def build (table : String) (o : Options) : Statement → Except Error BoundSql
  | .select columns => Sql.select table o columns
  | .count => Sql.count table o
  | .update values => Sql.update table o values
  | .delete => Sql.delete table o
  | .insert values => Sql.insert table values

/-- The text before the columns and conditions of a statement. -/
def head (table : String) : Statement → String
  | .select columns => "SELECT " ++ itemsOf columns ++ " FROM " ++ quote table
  | .count => "SELECT COUNT(*) FROM " ++ quote table
  | .update _ => "UPDATE " ++ quote table ++ " SET "
  | .delete => "DELETE FROM " ++ quote table
  | .insert _ => "INSERT INTO " ++ quote table ++ " SET "

/-- The columns that a statement assigns. -/
def assigns : Statement → List (Value × Value)
  | .update values => values.asEntries
  | .insert values => values.asEntries
  | _ => []

/-- A statement that takes no options takes empty ones. -/
def optionsOf (o : Options) : Statement → Options
  | .insert _ => {}
  | _ => o

/-- The fragments of a statement, with conditions taken apart by `tree`. -/
def fragments (tree : Condition → List Fragment) (table : String) (o : Options)
    (st : Statement) : List Fragment :=
  .plain (st.head table) :: (assignmentFragments st.assigns ++ (st.optionsOf o).fragments tree)

variable {tree : Condition → List Fragment} {table : String} {o : Options}

theorem head_select (columns : Value) : (select columns).head table =
    "SELECT " ++ itemsOf columns ++ " FROM " ++ quote table := rfl

theorem head_count : count.head table = "SELECT COUNT(*) FROM " ++ quote table := rfl

theorem head_update (values : Value) : (update values).head table =
    "UPDATE " ++ quote table ++ " SET " := rfl

theorem head_delete : delete.head table = "DELETE FROM " ++ quote table := rfl

theorem head_insert (values : Value) : (insert values).head table =
    "INSERT INTO " ++ quote table ++ " SET " := rfl

theorem fragments_select (columns : Value) : (select columns).fragments tree table o =
    .plain ((select columns).head table) :: o.fragments tree := rfl

theorem fragments_count : count.fragments tree table o =
    .plain (count.head table) :: o.fragments tree := rfl

theorem fragments_update (values : Value) : (update values).fragments tree table o =
    .plain ((update values).head table) ::
      (assignmentFragments values.asEntries ++ o.fragments tree) := rfl

theorem fragments_delete : delete.fragments tree table o =
    .plain (delete.head table) :: o.fragments tree := rfl

theorem fragments_insert (values : Value) : (insert values).fragments tree table o =
    .plain ((insert values).head table) :: assignmentFragments values.asEntries :=
  congrArg _ (List.append_nil _)

/-- The fragments of a statement make up its text and its values. -/
theorem build_eq_ok (ht : Faithful tree) {st : Statement} {b : BoundSql}
    (h : st.build table o = .ok b) :
    Fragment.textOf (st.fragments tree table o) = b.sql.toList ∧
      Fragment.argsOf (st.fragments tree table o) = b.args := by
  cases st with
  | select columns =>
    obtain ⟨clauses, items, hc, hi, rfl⟩ := select_eq_ok.mp h
    obtain ⟨hs, ha⟩ := Options.assemble_madeOf ht hc
    rw [fragments_select, Fragment.textOf_cons, Fragment.argsOf_cons, hs, ha]
    simp only [Fragment.text_plain, Fragment.args_plain, head_select, itemsOf_eq hi,
      String.toList_append, List.nil_append, and_self]
  | count =>
    obtain ⟨clauses, hc, rfl⟩ := count_eq_ok.mp h
    obtain ⟨hs, ha⟩ := Options.assemble_madeOf ht hc
    rw [fragments_count, Fragment.textOf_cons, Fragment.argsOf_cons, hs, ha]
    simp only [Fragment.text_plain, Fragment.args_plain, head_count, String.toList_append,
      List.nil_append, and_self]
  | update values =>
    obtain ⟨clauses, text, args, hc, hv, rfl⟩ := update_eq_ok.mp h
    obtain ⟨hs, ha⟩ := Options.assemble_madeOf ht hc
    obtain ⟨hvs, hva⟩ := assignments_eq_ok hv
    rw [fragments_update, Fragment.textOf_cons, Fragment.argsOf_cons, Fragment.textOf_append,
      Fragment.argsOf_append, hvs, hva, hs, ha]
    simp only [Fragment.text_plain, Fragment.args_plain, head_update, String.toList_append,
      List.nil_append, List.append_assoc, and_self]
  | delete =>
    obtain ⟨clauses, hc, rfl⟩ := delete_eq_ok.mp h
    obtain ⟨hs, ha⟩ := Options.assemble_madeOf ht hc
    rw [fragments_delete, Fragment.textOf_cons, Fragment.argsOf_cons, hs, ha]
    simp only [Fragment.text_plain, Fragment.args_plain, head_delete, String.toList_append,
      List.nil_append, and_self]
  | insert values =>
    obtain ⟨text, args, hv, rfl⟩ := insert_eq_ok.mp h
    obtain ⟨hvs, hva⟩ := assignments_eq_ok hv
    rw [fragments_insert, Fragment.textOf_cons, Fragment.argsOf_cons, hvs, hva]
    simp only [Fragment.text_plain, Fragment.args_plain, head_insert, String.toList_append,
      List.nil_append, and_self]

end Statement

/-! ### Sound statements -/

namespace Condition

/-- The piece of SQL a condition compiles to. -/
def piece (c : Condition) : List BoundSql :=
  match c.render with
  | .ok b => [b]
  | .error _ => []

/-- A condition as one fragment. -/
def whole (c : Condition) : List Fragment := c.piece.map .bound

theorem piece_eq {c : Condition} {b : BoundSql} (h : c.render = .ok b) : c.piece = [b] := by
  rw [piece, h]

theorem whole_faithful : Faithful whole := by
  intro c b h
  rw [whole, piece_eq h]
  exact ⟨List.append_nil _, List.append_nil _⟩

theorem TreeOf.whole_aligned {c : Condition} (h : c.TreeOf IsClosedLeaf) :
    ∀ f ∈ c.whole, f.IsAligned := by
  obtain ⟨b, hb, hs⟩ := h.render_shows
  intro f hf
  rw [whole, piece_eq hb] at hf
  obtain rfl := List.mem_singleton.mp hf
  exact hs.binds

theorem bound?_whole (c : Condition) : c.whole.filterMap Fragment.bound? = c.piece := by
  have h : Fragment.bound? ∘ Fragment.bound = some := rfl
  rw [whole, List.filterMap_map, h, List.filterMap_some]

end Condition

namespace Options

/-- The pieces of a query's conditions, on rows first and then on groups. -/
def pieces (o : Options) : List BoundSql :=
  o.condition.toList.flatMap (·.piece) ++ o.having.toList.flatMap (·.piece)

theorem assemble_refused {o : Options} {allowed : List Clause} (operation : String)
    (h : o.keys.filter (fun k => !allowed.contains k) ≠ []) :
    o.assemble allowed operation =
      .error (.clauses operation (o.keys.filter fun k => !allowed.contains k)) := by
  unfold assemble
  split
  · contradiction
  · rfl

theorem assemble_taken {o : Options} {allowed : List Clause} (operation : String)
    (h : o.keys.filter (fun k => !allowed.contains k) = []) :
    o.assemble allowed operation = o.clausesOf Clause.all := by
  rw [assemble, h]

theorem bound?_clauseFragments (o : Options) (k : Clause) :
    (o.clauseFragments Condition.whole k).filterMap Fragment.bound? =
      (o.conditionOf k).toList.flatMap fun p => p.2.piece := by
  have hp : ∀ ss : List String,
      (ss.map fun s => Fragment.plain (" " ++ s)).filterMap Fragment.bound? = [] := by
    intro ss
    rw [List.filterMap_eq_nil_iff]
    intro f hf
    obtain ⟨s, -, rfl⟩ := List.mem_map.mp hf
    rfl
  unfold clauseFragments
  cases o.conditionOf k with
  | some p =>
    obtain ⟨keyword, c⟩ := p
    have hk : Fragment.bound? (.plain (" " ++ keyword ++ " ")) = none := rfl
    simp only [List.filterMap_cons_none hk, Condition.bound?_whole, Option.toList_some,
      List.flatMap_singleton]
  | none =>
    simp only [Option.toList_none, List.flatMap_nil]
    split
    · exact hp _
    · rfl

theorem bound?_fragments (o : Options) :
    (o.fragments Condition.whole).filterMap Fragment.bound? = o.pieces := by
  have hm : ∀ (keyword : String) (c : Option Condition),
      ((c.map (keyword, ·)).toList.flatMap fun p => p.2.piece) = c.toList.flatMap (·.piece) := by
    intro keyword c
    cases c <;> rfl
  unfold fragments pieces
  simp only [Clause.all, List.flatMap_cons, List.flatMap_nil, List.filterMap_append,
    bound?_clauseFragments, conditionOf, hm, Option.toList_none, List.nil_append, List.append_nil]

end Options

namespace Statement

/-- The clauses a statement takes. -/
def allowed : Statement → List Clause
  | .select _ => Clause.reading
  | .count => Clause.reading
  | _ => Clause.writing

def operation : Statement → String
  | .select _ => "fetch"
  | .count => "count"
  | .update _ => "set"
  | .delete => "delete"
  | .insert _ => "insert"

/-- The clauses among the options that a statement does not take. -/
def refused (o : Options) (st : Statement) : List Clause :=
  (st.optionsOf o).keys.filter fun k => !st.allowed.contains k

/-- The pieces that come with values: the assigned columns, the conditions on rows, and those on
groups. -/
def pieces (o : Options) (st : Statement) : List BoundSql :=
  st.assigns.map assigned ++ (st.optionsOf o).pieces

/-- What is selected can be selected and binds nothing, and what is assigned can be assigned. -/
def IsSound : Statement → Prop
  | .select columns => (∃ items, projection columns = .ok items) ∧ RequestsUnbound columns
  | .update values => IsAssignment values
  | .insert values => IsAssignment values
  | _ => True

theorem bound?_fragments (table : String) (o : Options) (st : Statement) :
    (st.fragments Condition.whole table o).filterMap Fragment.bound? = st.pieces o := by
  have hh : Fragment.bound? (.plain (st.head table)) = none := rfl
  rw [fragments, List.filterMap_cons_none hh, List.filterMap_append, bound?_assignmentFragments,
    Options.bound?_fragments, pieces]

variable {table : String} {o : Options} {st : Statement}

theorem IsSound.head_binds (hst : st.IsSound) : Binds (st.head table).toList 0 := by
  have hq := quote_binds table
  have hset : Binds " SET ".toList 0 := by decide
  cases st with
  | select columns =>
    obtain ⟨⟨items, hi⟩, hu⟩ := hst
    have hs : Binds "SELECT ".toList 0 := by decide
    have hf : Binds " FROM ".toList 0 := by decide
    rw [head_select, itemsOf_eq hi, String.toList_append, String.toList_append,
      String.toList_append]
    exact ((hs.append (projection_binds hi hu)).append hf).append hq
  | count =>
    have hs : Binds "SELECT COUNT(*) FROM ".toList 0 := by decide
    rw [head_count, String.toList_append]
    exact hs.append hq
  | update values =>
    have hs : Binds "UPDATE ".toList 0 := by decide
    rw [head_update, String.toList_append, String.toList_append]
    exact (hs.append hq).append hset
  | delete =>
    have hs : Binds "DELETE FROM ".toList 0 := by decide
    rw [head_delete, String.toList_append]
    exact hs.append hq
  | insert values =>
    have hs : Binds "INSERT INTO ".toList 0 := by decide
    rw [head_insert, String.toList_append, String.toList_append]
    exact (hs.append hq).append hset

theorem eachCondition_optionsOf {P : Condition → Prop} (ho : o.EachCondition P) (st : Statement) :
    (st.optionsOf o).EachCondition P := by
  cases st with
  | insert values =>
    intro c h
    rcases h with h | h <;> exact nomatch h
  | _ => exact ho

/-- The fragments of a statement are aligned when those of its conditions are. -/
theorem fragments_aligned {tree : Condition → List Fragment}
    (ho : (st.optionsOf o).EachCondition fun c => ∀ f ∈ tree c, f.IsAligned) (hst : st.IsSound)
    (table : String) : ∀ f ∈ st.fragments tree table o, f.IsAligned := by
  intro f hf
  rcases List.mem_cons.mp hf with rfl | hf
  · exact hst.head_binds
  · rcases List.mem_append.mp hf with hf | hf
    · exact assignmentFragments_aligned f hf
    · exact Options.forall_fragments (fun _ hs => hs) ho f hf

/-- A statement fails when its clauses do, whatever else it is given. -/
theorem build_eq_error {e : Error}
    (h : (st.optionsOf o).assemble st.allowed st.operation = .error e) :
    st.build table o = .error e := by
  cases st with
  | select columns =>
    have ha : o.assemble Clause.reading "fetch" = .error e := h
    rw [build, Sql.select, ha]
    rfl
  | count =>
    have ha : o.assemble Clause.reading "count" = .error e := h
    rw [build, Sql.count, ha]
    rfl
  | update values =>
    have ha : o.assemble Clause.writing "set" = .error e := h
    rw [build, Sql.update, ha]
    rfl
  | delete =>
    have ha : o.assemble Clause.writing "delete" = .error e := h
    rw [build, Sql.delete, ha]
    rfl
  | insert values => exact nomatch h

/-- A statement refuses clauses that it does not take. -/
theorem build_refused (h : st.refused o ≠ []) :
    st.build table o = .error (.clauses st.operation (st.refused o)) :=
  build_eq_error (Options.assemble_refused st.operation h)

theorem isWritable_optionsOf (ho : o.IsWritable) (st : Statement) : (st.optionsOf o).IsWritable where
  conditions := eachCondition_optionsOf ho.conditions st
  limit := by
    cases st with
    | insert values => exact fun _ h => nomatch h
    | _ => exact ho.limit
  offset := by
    cases st with
    | insert values => exact fun _ h => nomatch h
    | _ => exact ho.offset

/-- A statement fails on a page whose numbers are too long to be written. -/
theorem build_of_longPage (ho : o.IsWritable) (h : st.refused o = [])
    (hp : ¬ (st.optionsOf o).HasShortPage) : st.build table o = .error (.fault .value) := by
  refine build_eq_error ((Options.assemble_taken st.operation h).trans ?_)
  exact (isWritable_optionsOf ho st).clausesOf_eq_error hp (by decide)

theorem IsSound.build_ok_of_isWritable (ho : o.IsWritable) (hst : st.IsSound)
    (h : st.refused o = []) (hp : (st.optionsOf o).HasShortPage) :
    ∃ b, st.build table o = .ok b := by
  obtain ⟨clauses, hc⟩ := (isWritable_optionsOf ho st).clausesOf_ok fun _ => hp
  have ha : (st.optionsOf o).assemble st.allowed st.operation = .ok clauses :=
    (Options.assemble_taken st.operation h).trans hc
  cases st with
  | select columns =>
    obtain ⟨⟨items, hi⟩, -⟩ := hst
    exact ⟨_, select_eq_ok.mpr ⟨clauses, items, ha, hi, rfl⟩⟩
  | count => exact ⟨_, count_eq_ok.mpr ⟨clauses, ha, rfl⟩⟩
  | update values =>
    obtain ⟨text, args, hv⟩ := IsAssignment.assignments_ok hst
    exact ⟨_, update_eq_ok.mpr ⟨clauses, text, args, ha, hv, rfl⟩⟩
  | delete => exact ⟨_, delete_eq_ok.mpr ⟨clauses, ha, rfl⟩⟩
  | insert values =>
    obtain ⟨text, args, hv⟩ := IsAssignment.assignments_ok hst
    exact ⟨_, insert_eq_ok.mpr ⟨text, args, hv, rfl⟩⟩

theorem IsSound.build_ok (ho : o.IsSound) (hst : st.IsSound) (h : st.refused o = [])
    (hp : (st.optionsOf o).HasShortPage) : ∃ b, st.build table o = .ok b :=
  hst.build_ok_of_isWritable ho.isWritable h hp

/-- The placeholders of a statement are those of its assigned columns, of its condition on rows and
of its condition on groups, in this order, and its values are theirs. Clauses that the statement
does not take are refused, and then a page whose numbers are too long to be written fails. -/
theorem build_aligned (ho : o.IsSound) (hst : st.IsSound) (table : String) :
    (st.refused o ≠ [] → st.build table o = .error (.clauses st.operation (st.refused o))) ∧
    (st.refused o = [] → ¬ (st.optionsOf o).HasShortPage →
      st.build table o = .error (.fault .value)) ∧
    (st.refused o = [] → (st.optionsOf o).HasShortPage →
      ∃ b fs, st.build table o = .ok b ∧ Fragment.textOf fs = b.sql.toList ∧
        fs.filterMap Fragment.bound? = st.pieces o ∧
        placeholders b.sql = Fragment.offsetsOf 0 fs ∧
        b.args = (st.pieces o).flatMap (·.args) ∧
        (placeholders b.sql).length = b.args.length) := by
  refine ⟨build_refused, build_of_longPage ho.isWritable, fun hr hp => ?_⟩
  obtain ⟨b, hb⟩ := IsSound.build_ok ho hst hr hp
  obtain ⟨htext, hargs⟩ := build_eq_ok Condition.whole_faithful hb
  have hal := fragments_aligned
    (fun c hc => (eachCondition_optionsOf ho.conditions st c hc).whole_aligned) hst table
  refine ⟨b, st.fragments Condition.whole table o, hb, htext, bound?_fragments table o st,
    ?_, ?_, ?_⟩
  · rw [placeholders_eq_offsets, ← htext, Fragment.offsets_textOf hal]
  · rw [← hargs, Fragment.argsOf_eq, bound?_fragments]
  · rw [length_placeholders, ← htext, ← hargs, (Fragment.binds_textOf hal).count_eq]

/-- Options whose names hold backticks, quotes, backslashes and question marks. -/
def quotedOptions : Options where
  condition := some Condition.quotedTree
  grouping := some ["g`?.h"]
  having := some (.leaf "MAX(a) > ?" [.int 3])
  ordering := some [("o'\\", .descending)]
  limit := some (.int 5)
  offset := some (.int 10)

/-- An expression with a quoted question mark under an alias. -/
def quotedColumns : Value := .map [(.text "n`?'", .text "MAX(`a?`)")]

theorem quotedOptions_isSound : quotedOptions.IsSound where
  conditions := by
    intro c h
    rcases h with h | h <;> obtain rfl := Option.some.inj h
    · exact Condition.quotedTree_treeOf
    · exact .leaf ⟨Condition.isLeaf_iff.mpr ⟨by decide +kernel, by simp [Value.items?]⟩,
        by decide +kernel⟩
  limit := by
    rintro v ⟨⟩
    exact ⟨5, rfl⟩
  offset := by
    rintro v ⟨⟩
    exact ⟨10, rfl⟩

theorem quotedColumns_isSound : (select quotedColumns).IsSound := by
  constructor
  · have hok : (projection quotedColumns).isOk = true := by decide +kernel
    cases h : projection quotedColumns with
    | ok items => exact ⟨items, rfl⟩
    | error e => simp [h, Except.isOk, Except.toBool] at hok
  · intro s hs _
    simp only [quotedColumns, requested, List.map_cons, List.map_nil, List.mem_singleton] at hs
    obtain rfl := Value.text.inj hs
    exact ⟨by decide +kernel, by decide +kernel⟩

theorem quotedOptions_hasShortPage : quotedOptions.HasShortPage := by
  rintro v ⟨⟩
  refine ⟨Value.isShort_int (by decide +kernel), ?_⟩
  rintro w ⟨⟩
  exact Value.isShort_int (by decide +kernel)

theorem quotedOptions_aligned :
    quotedOptions.IsSound ∧ (select quotedColumns).IsSound ∧
      (select quotedColumns).refused quotedOptions = [] ∧ quotedOptions.HasShortPage ∧
      ∃ b fs, (select quotedColumns).build "t`?" quotedOptions = .ok b ∧
        Fragment.textOf fs = b.sql.toList ∧
        fs.filterMap Fragment.bound? = (select quotedColumns).pieces quotedOptions ∧
        placeholders b.sql = Fragment.offsetsOf 0 fs ∧
        b.args = ((select quotedColumns).pieces quotedOptions).flatMap (·.args) ∧
        (placeholders b.sql).length = b.args.length := by
  obtain ⟨-, -, hbuilt⟩ := build_aligned quotedOptions_isSound quotedColumns_isSound "t`?"
  exact ⟨quotedOptions_isSound, quotedColumns_isSound, rfl, quotedOptions_hasShortPage,
    hbuilt rfl quotedOptions_hasShortPage⟩

end Statement

end RowQuery

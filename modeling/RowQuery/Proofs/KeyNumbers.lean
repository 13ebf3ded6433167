import RowQuery.Proofs.OwnRow

/-! Keys of new records. A record that is inserted into a table with a single key column takes the
number that the driver reports for the insertion, or else the one it gives when it is asked for the
number of the last insertion, which need not be this one. So a value that the column was given is
kept only when no number is reported, or the same one. -/

namespace RowQuery

open Running

/-! ### Columns under free names -/

/-- A name is free for a column when it stands for nothing else and hides nothing. -/
structure Model.IsFree (m : Model) (c : String) : Prop where
  visible : c.toList.head? ≠ some '_'
  notProperty : c ∉ m.properties
  notSettings : c ≠ "model_config"
  notFunction : c ∉ m.functions

namespace Row

/-- The value that a column was given. -/
def givenValue? (r : Row) (c : String) : Option Value :=
  match Keyed.find? r.fields c with
  | some v => if r.given.contains c then some v else none
  | none => Keyed.find? r.extras c

variable {r s : Row} {c : String} {v : Value}

theorem mem_givenColumns (h : r.givenValue? c = some v) : (c, v) ∈ r.givenColumns := by
  unfold givenValue? at h
  split at h
  · rename_i u hu
    split_ifs at h with hg
    obtain rfl := Option.some.inj h
    obtain ⟨k, hk, hmem⟩ := Keyed.mem_of_find? hu
    obtain rfl := beq_iff_eq.mp hk
    exact List.mem_append_left _ (List.mem_filter.mpr ⟨hmem, hg⟩)
  · obtain ⟨k, hk, hmem⟩ := Keyed.mem_of_find? h
    obtain rfl := beq_iff_eq.mp hk
    exact List.mem_append_right _ hmem

/-- Under a free name stands the column of this name. -/
theorem attribute?_of_isFree (hc : r.model.IsFree c) (ha : Keyed.hasKey r.attached c = false) :
    r.attribute? c = .ok ((Keyed.find? r.fields c).or (Keyed.find? r.extras c)) := by
  have hp : r.model.properties.contains c = false := by simpa using hc.notProperty
  have hf : r.model.functions.contains c = false := by simpa using hc.notFunction
  have hnone : Keyed.find? r.attached c = none := by simpa [Keyed.hasKey] using ha
  have hidden : ∀ name, name.toList.head? = some '_' → (c == name) = false := by
    intro name hname
    rw [beq_eq_false_iff_ne]
    rintro rfl
    exact hc.visible hname
  have htable : (c == "_table") = false := hidden "_table" (by decide)
  have hnew : (c == "_new") = false := hidden "_new" (by decide)
  rw [attribute?, Keyed.find?_append, hnone, Option.or_none]
  simp only [hp, hf, htable, hnew, hc.notSettings, Bool.and_false, Bool.false_eq_true, ↓reduceIte]
  cases Keyed.find? r.fields c <;> rfl

theorem getD_of_given (hc : r.model.IsFree c) (ha : Keyed.hasKey r.attached c = false)
    (h : r.givenValue? c = some v) : r.getD (.text c) .null = .ok v := by
  unfold givenValue? at h
  rw [getD, attribute?_of_isFree hc ha]
  split at h
  · rename_i u hu
    split_ifs at h
    rw [hu, ← Option.some.inj h]
    rfl
  · rename_i hu
    rw [hu, h]
    rfl

/-- A column that is set has its value, and nothing else than columns changes. -/
theorem set_of_isFree (hc : r.model.IsFree c) (ha : Keyed.hasKey r.attached c = false)
    (h : r.set (.text c) v = .ok s) : s.getD (.text c) .null = .ok v ∧ s.model = r.model ∧
      s.attached = r.attached ∧ s.owner = r.owner := by
  have hp : r.model.properties.contains c = false := by simpa using hc.notProperty
  have hf : r.model.functions.contains c = false := by simpa using hc.notFunction
  rw [set, assign, if_neg hc.visible] at h
  simp only [hp, hf, hc.notSettings, Bool.false_eq_true, or_self, ↓reduceIte] at h
  split_ifs at h with hk <;> obtain rfl := Except.ok.inj h
  · refine ⟨?_, rfl, rfl, rfl⟩
    rw [getD, attribute?_of_isFree (r := r.setField c v) hc ha, setField, Keyed.find?_put,
      if_pos BEq.rfl]
    rfl
  · refine ⟨?_, rfl, rfl, rfl⟩
    have hnone : Keyed.find? r.fields c = none := by simpa [Keyed.hasKey] using hk
    rw [getD, attribute?_of_isFree (r := { r with extras := Keyed.put r.extras c v }) hc ha,
      Keyed.find?_put, if_pos BEq.rfl, hnone]
    rfl

end Row

/-! ### Numbers of rows -/

namespace Outcome

/-- A column of the first row that a statement was answered with. -/
def cell? (o : Outcome) (column : String) : Option Value :=
  match o with
  | .result columns (row :: _) _ _ => Keyed.find? (Keyed.ofList (columns.zip row)) column
  | _ => none

end Outcome

/-- The number that a value stands for, zero for a missing one. -/
def Value.number (v : Value) : Except Error Int := if v.isTruthy then v.integer else .ok 0

/-- The number of a row as the driver reports it: with the answer to its insertion, or else with the
answer to the question for it. -/
def Outcome.Reports (o : Outcome) (later : List Exchange) (n : Int) : Prop :=
  if o.lastRowId.isTruthy then later = [] ∧ o.lastRowId.integer = .ok n
  else ∃ answer v, later = [⟨⟨Database.lastInsertSql, []⟩, answer⟩] ∧
    answer.cell? "last_insert_id" = some v ∧ v.number = .ok n

namespace Database

variable {w u : World} {id : Nat} {d : Database}

/-- What is read of the answer to the question for a number. -/
def takeNumber : Answer → Act Int
  | .rows (first :: _) => do
    let row ← World.row first
    if Keyed.hasKey row.toColumns "last_insert_id" then
      let v ← Act.ofFault (row.get (.text "last_insert_id"))
      if v.isTruthy then Act.ofExcept v.integer else return 0
    else throw (.database .noInsertId)
  | _ => throw (.database .noInsertId)

theorem lastInsertId_eq (id : Nat) : lastInsertId id = (do
    let known ← match (← World.database id).last with
      | some s => pure (← Statement.get s).lastRowId
      | none => pure .null
    if known.isTruthy then Act.ofExcept known.integer
    else takeNumber (← query id lastInsertSql)) := by
  unfold lastInsertId takeNumber
  rfl

theorem database_asked (hd : w.databases[id]? = some d) (b : BoundSql) (s : Prepared) :
    (w.asked id d b s).databases[id]? = some { d with last := some w.statements.length } :=
  List.getElem?_set_self (List.getElem?_eq_some_iff.mp hd).1

theorem statement_asked (w : World) (id : Nat) (d : Database) (b : BoundSql) (s : Prepared) :
    (w.asked id d b s).statements[w.statements.length]? = some s := by
  simp [World.asked]

/-- A row that is read into no particular model. -/
def plainRow (columns : List (String × Value)) : Row :=
  { model := .result, fields := [], extras := columns, given := [] }

theorem readRows_plain (s : Prepared) :
    s.readRows .result none = .ok (s.rows.map fun row => plainRow (s.columnsOf row)) := by
  rw [Prepared.readRows, Result.mapM_eq_ok, List.forall₂_map_right_iff, List.forall₂_same]
  intro row _
  have hall : ((s.columnsOf row).filter fun _ => true) = s.columnsOf row :=
    List.filter_eq_self.mpr fun _ _ => rfl
  exact congrArg (fun columns => Except.ok (plainRow columns)) hall

theorem plainRow_get (columns : List (String × Value)) {v : Value}
    (h : (plainRow columns).get (.text "last_insert_id") = .ok v) :
    Keyed.find? columns "last_insert_id" = some v := by
  have hattribute : (plainRow columns).attribute? "last_insert_id" =
      .ok (Keyed.find? columns "last_insert_id") := by
    have hp : Model.result.properties.contains "last_insert_id" = false := by decide
    have hf : Model.result.functions.contains "last_insert_id" = false := by decide
    simp only [plainRow, Row.attribute?, hp, hf, List.append_nil, Keyed.find?]
    rfl
  rw [Row.get, hattribute, Result.ok_bind] at h
  split at h
  · rename_i u hu
    rw [hu, ← Except.ok.inj h]
  · cases h

/-- A text that selects sends itself and reads the rows of its answer. -/
theorem query_select {sql : String} (hs : Sql.verb sql = "select") (id : Nat) (arguments : Value) :
    query id sql arguments = (do
      let s ← Statement.prepare id sql
      Statement.execute s arguments
      let source ← sourceOf id sql
      let ids ← Statement.fetchAll s (.model source.1) source.2
      return .rows ids) := by
  unfold query
  simp only [hs, ↓reduceIte]

/-- The question for a number is answered with plain rows. -/
theorem run_question (hd : w.databases[id]? = some d) :
    (query id lastInsertSql).run.run w = match w.connection.queue.headD .empty with
      | .failure code text columns => (.error (.database (.driver code text)),
          w.asked id d ⟨lastInsertSql, []⟩ (({ sql := lastInsertSql } : Prepared).interrupt columns))
      | .result columns rows n last =>
        let s := ({ sql := lastInsertSql } : Prepared).receive columns rows n last
        (.ok (.rows (List.range' w.rows.length s.rows.length)),
          { w.asked id d ⟨lastInsertSql, []⟩ s with
            rows := w.rows ++ s.rows.map fun row => plainRow (s.columnsOf row) }) := by
  rw [query_select (by decide), Statement.run_ask lastInsertSql _ hd rfl]
  cases w.connection.queue.headD .empty with
  | failure code text columns => rfl
  | result columns rows n last =>
    have hsource : ∀ v : World, (∃ d, v.databases[id]? = some d) →
        (sourceOf id lastInsertSql).run.run v = (.ok (.result, none), v) := by
      rintro v ⟨d, hv⟩
      have hdb : (World.database id).run.run v = (.ok d, v) := by rw [run_database, hv]
      have hmain : Sql.mainTable? lastInsertSql = none := by decide
      rw [sourceOf, run_bind_of_ok hdb, hmain]
      rfl
    dsimp only
    rw [run_bind_of_ok (hsource _ ⟨_, database_asked hd _ _⟩), run_bind,
      Statement.run_fetchAll (statement_asked w id d _ _), readRows_plain]
    simp only [List.length_map]
    rfl

/-- The number that is taken from a row stands in its column. -/
theorem takeNumber_eq_ok {columns : List (String × Value)} {first : Nat} {ids : List Nat} {n : Int}
    (hr : w.rows[first]? = some (plainRow columns))
    (h : (takeNumber (.rows (first :: ids))).run.run w = (.ok n, u)) :
    (∃ v, Keyed.find? columns "last_insert_id" = some v ∧ v.number = .ok n) ∧ u = w := by
  rw [takeNumber, run_bind_of_ok (run_row_eq_ok.mpr ⟨hr, rfl⟩)] at h
  split_ifs at h
  · obtain ⟨v, hv, h⟩ := (reads_ofFault _ w).run_bind_eq_ok.mp h
    have hfound := plainRow_get columns (Result.mapError_eq_ok.mp (Prod.mk.inj hv).1)
    split_ifs at h with ht
    · obtain ⟨hn, rfl⟩ := Prod.mk.inj h
      exact ⟨⟨v, hfound, by rw [Value.number, if_pos ht, hn]⟩, rfl⟩
    · obtain ⟨hn, rfl⟩ := Prod.mk.inj h
      exact ⟨⟨v, hfound, by rw [Value.number, if_neg ht]; exact hn⟩, rfl⟩
  · cases h

/-- The number that the question for it is answered with stands in its column of the first row. -/
theorem ask_eq_ok (hd : w.databases[id]? = some d) {n : Int}
    (h : (query id lastInsertSql >>= takeNumber).run.run w = (.ok n, u)) :
    (∃ v, (w.connection.queue.headD .empty).cell? "last_insert_id" = some v ∧
      v.number = .ok n) ∧
    ∃ s read, u = { w.asked id d ⟨lastInsertSql, []⟩ s with rows := w.rows ++ read } := by
  rw [run_bind, run_question hd] at h
  cases ho : w.connection.queue.headD .empty with
  | failure code text columns =>
    rw [ho] at h
    cases h
  | result columns rows count last =>
    rw [ho] at h
    dsimp only at h
    have hreceived : (({ sql := lastInsertSql } : Prepared).receive columns rows count last).rows =
      if columns.isEmpty then [] else rows := rfl
    rw [hreceived] at h
    split_ifs at h with hc
    · cases h
    · cases rows with
      | nil => cases h
      | cons row rest =>
        rw [List.length_cons, List.range'_succ] at h
        obtain ⟨hv, rfl⟩ := takeNumber_eq_ok (by simp; rfl) h
        exact ⟨hv, _, _, rfl⟩

/-- After an insertion the number of the row is read from its answer, or asked for. -/
theorem reports_of_lastInsertId (hd : w.databases[id]? = some d) {b : BoundSql} {s : Prepared}
    {o : Outcome} (hs : s.lastRowId = o.lastRowId) {n : Int}
    (h : (lastInsertId id).run.run (w.asked id d b s) = (.ok n, u)) :
    ∃ later, o.Reports later n ∧
      (w.asked id d b s).connection.Exchanges later u.connection ∧
      u.databases.length = w.databases.length := by
  have hdb := database_asked hd b s
  have hlength : (w.asked id d b s).databases.length = w.databases.length := List.length_set
  have hdatabase : (World.database id).run.run (w.asked id d b s) =
      (.ok { d with last := some w.statements.length }, w.asked id d b s) := by
    rw [run_database, hdb]
  have hstatement : (Statement.get w.statements.length).run.run (w.asked id d b s) =
      (.ok s, w.asked id d b s) := by
    rw [run_statement, statement_asked]
  rw [lastInsertId_eq, run_bind_of_ok hdatabase] at h
  simp only [pure_bind] at h
  rw [run_bind_of_ok hstatement, hs] at h
  unfold Outcome.Reports
  split_ifs at h ⊢ with ht
  · obtain ⟨hn, rfl⟩ := Prod.mk.inj h
    exact ⟨[], ⟨rfl, hn⟩, .refl _, hlength⟩
  · obtain ⟨⟨v, hcell, hn⟩, q, read, rfl⟩ := ask_eq_ok hdb h
    refine ⟨[⟨⟨lastInsertSql, []⟩, _⟩], ⟨_, v, rfl, hcell, hn⟩, .next (.none rfl rfl), ?_⟩
    exact List.length_set.trans hlength

end Database

/-! ### Insertions that succeed -/

namespace Record

variable {id d : Nat} {r : Row} {t : Table} {w u : World} {column : Value} {n : Int}

theorem run_mark (hr : w.rows[id]? = some r) (success : Bool) : (mark id success).run.run w =
    (.ok success, { w with rows := w.rows.set id { r with isNew := .bool !success } }) := by
  rw [mark, run_bind_of_ok (run_row_eq_ok.mpr ⟨hr, rfl⟩)]
  rfl

/-- The row of a record with a number for its key, if there is one. -/
def Numbered (r : Row) (column : Value) (n : Int) (s : Row) : Prop :=
  if n = 0 then s = r else r.set column (.int n) = .ok s

/-- What remains of an insertion that succeeds takes the number of a single key column. -/
theorem settle_eq_ok {key : List Value} (hr : w.rows[id]? = some r) (ht : t.database = some d)
    (hkey : Keyed.find? w.primaryKeys t.id = some key)
    (h : (settle id t key true).run.run w = (.ok true, u))
    (hk : Keyed.find? u.primaryKeys t.id = some [column]) :
    ∃ n v s, (Database.lastInsertId d).run.run w = (.ok n, v) ∧ Numbered r column n s ∧
      u.rows[id]? = some { s with isNew := .bool false } ∧ u.connection = v.connection ∧
      u.databases = v.databases := by
  have hid : t.databaseId.run.run w = (.ok d, w) := by rw [run_databaseId, ht]
  have hkeep : Keeps (World.Reaches fun _ => True) (Database.lastInsertId d) w :=
    keeps_lastInsertId fun _ => trivial
  unfold settle at h
  simp only [↓reduceIte] at h
  split at h
  · rename_i c
    rw [run_bind_of_ok hid] at h
    obtain ⟨n, v, hn, h⟩ := run_bind_eq_ok.mp h
    have hv := hkeep.of_run hn
    have hrv := hv.row_eq hr
    have hlt : id < v.rows.length := (List.getElem?_eq_some_iff.mp hrv).1
    have hcolumn : u.primaryKeys = v.primaryKeys → c = column := by
      intro hu
      rw [hu, hv.keys _ _ hkey] at hk
      exact List.head_eq_of_cons_eq (Option.some.inj hk)
    by_cases hzero : n = 0
    · simp only [hzero, ne_eq, not_true_eq_false, ↓reduceIte] at h
      rw [run_mark hrv] at h
      obtain ⟨-, rfl⟩ := Prod.mk.inj h
      exact ⟨n, v, r, hn, (if_pos hzero).mpr rfl, List.getElem?_set_self hlt, rfl, rfl⟩
    · simp only [hzero, ne_eq, not_false_eq_true, ↓reduceIte] at h
      rw [run_bind_of_ok (run_row_eq_ok.mpr ⟨hrv, rfl⟩)] at h
      obtain ⟨s, hs, h⟩ := (reads_ofFault _ v).run_bind_eq_ok.mp h
      have hset := Result.mapError_eq_ok.mp (Prod.mk.inj hs).1
      have hmark : (mark id true).run.run { v with rows := v.rows.set id s } = (.ok true, u) := h
      rw [run_mark (List.getElem?_set_self hlt)] at hmark
      obtain ⟨-, rfl⟩ := Prod.mk.inj hmark
      obtain rfl := hcolumn rfl
      refine ⟨n, v, s, hn, (if_neg hzero).mpr hset, ?_, rfl, rfl⟩
      exact List.getElem?_set_self (by rwa [List.length_set])
  · rename_i hne
    rw [run_mark hr] at h
    obtain ⟨-, rfl⟩ := Prod.mk.inj h
    exact absurd (Option.some.inj (hkey.symm.trans hk)) (hne column)

/-- An insertion that succeeds sends the question for the key, when it is not known yet, the
insertion, and the question for the number of the row, when that was not reported with it. -/
theorem Belongs.insert_eq_ok (h : Belongs id r t w)
    (hi : (insert id t).run.run w = (.ok true, u))
    (hk : Keyed.find? u.primaryKeys t.id = some [column]) :
    ∃ before b o later n s,
      w.connection.Exchanges (before ++ ⟨b, o⟩ :: later) u.connection ∧
      (∀ x ∈ before, ¬ x.IsInsert) ∧ Sql.insert t.name (Row.plainMap r.givenColumns) = .ok b ∧
      o.Reports later n ∧ Numbered r column n s ∧
      u.rows[id]? = some { s with isNew := .bool false } ∧
      u.databases.length = w.databases.length := by
  have hkeep : Keeps (World.Reaches fun x => ¬ x.IsInsert) t.primaryKey w :=
    keeps_primaryKey t (Exchange.key_not_isInsert t.name)
  have hdatabases := t.primaryKey_databases w
  rw [insert_eq] at hi
  obtain ⟨key, v, hkey, hi⟩ := run_bind_eq_ok.mp hi
  rw [hkey] at hdatabases
  have hv := hkeep.of_run hkey
  obtain ⟨before, hbefore, hidle⟩ := hv.exchanges
  have hrv := hv.row_eq h.row
  have hknown := primaryKey_known hkey
  rw [run_bind_of_ok (run_row_eq_ok.mpr ⟨hrv, rfl⟩)] at hi
  obtain ⟨values, hvalues, hi⟩ := (reads_ofFault _ v).run_bind_eq_ok.mp hi
  obtain ⟨_, -, hdump⟩ := Result.bind_eq_ok.mp (Result.mapError_eq_ok.mp (Prod.mk.inj hvalues).1)
  obtain rfl := Except.ok.inj hdump
  rcases t.run_insert (Row.plainMap r.givenColumns) v with
    ⟨e, he⟩ | ⟨b, d, db, s, hb, ht, hd, hs, hrun⟩
  · rw [run_bind_of_error he] at hi
    cases hi
  · obtain ⟨inserted, z, hz, hi⟩ := run_bind_eq_ok.mp hi
    rw [hrun] at hz
    obtain ⟨-, rfl⟩ := Prod.mk.inj hz
    have hra : (v.asked d db b s).rows[id]? = some r := hrv
    have hka : Keyed.find? (v.asked d db b s).primaryKeys t.id = some key := hknown
    cases hpos : decide (0 < inserted) with
    | false =>
      have hmark : settle id t key false = mark id false := rfl
      rw [hpos, hmark, run_mark hra] at hi
      cases hi
    | true =>
      rw [hpos] at hi
      obtain ⟨n, y, s', hn, hnumbered, hru, hcu, hdu⟩ :=
        settle_eq_ok hra ht hka hi hk
      obtain ⟨later, hreports, hlater, hlength⟩ := Database.reports_of_lastInsertId hd hs hn
      refine ⟨before, b, _, later, n, s', ?_, hidle, hb, hreports, hnumbered, hru, ?_⟩
      · rw [hcu]
        exact hbefore.append (.next (hlater.of_agree rfl rfl))
      · rw [hdu, hlength]
        exact hdatabases

/-- A save of a new record that succeeds is an insertion that succeeds. -/
theorem Belongs.save_new_eq_ok (h : Belongs id r t w) (hn : r.isNew.isTruthy = true)
    (hs : (save id).run.run w = (.ok true, u)) :
    ∃ events v, (insert id t).run.run { w with events := events } = (.ok true, v) ∧
      v.Announced u := by
  obtain ⟨events, hrun⟩ := h.run_save
  rw [hrun, hn, if_pos rfl] at hs
  obtain ⟨success, v, hi, hs⟩ := run_bind_eq_ok.mp hs
  obtain ⟨_, v', hafter, hs⟩ := run_bind_eq_ok.mp hs
  obtain ⟨hsuccess, rfl⟩ := Prod.mk.inj hs
  obtain rfl := Except.ok.inj hsuccess
  exact ⟨events, v, hi, (announces id _ _ v).of_run hafter⟩

/-- A record that took a number for a free column is what it was, with this number for the column. -/
theorem Numbered.belongs {c : String} {v : Value} {s : Row} (h : Numbered r (.text c) n s)
    (hr : Belongs id r t w) (hc : r.model.IsFree c) (ha : Keyed.hasKey r.attached c = false)
    (hv : r.givenValue? c = some v) (hu : u.rows[id]? = some { s with isNew := .bool false })
    (hd : u.databases.length = w.databases.length) :
    Belongs id { s with isNew := .bool false } t u ∧
      ({ s with isNew := .bool false } : Row).HasKey [c] [if n = 0 then v else .int n] := by
  obtain ⟨hvalue, hmodel, hattached, howner⟩ : s.getD (.text c) .null =
      .ok (if n = 0 then v else .int n) ∧ s.model = r.model ∧ s.attached = r.attached ∧
        s.owner = r.owner := by
    unfold Numbered at h
    split_ifs at h ⊢
    · rw [h]
      exact ⟨Row.getD_of_given hc ha hv, rfl, rfl, rfl⟩
    · exact Row.set_of_isFree hc ha h
  have hcs : s.model.IsFree c := hmodel ▸ hc
  have has : Keyed.hasKey s.attached c = false := hattached ▸ ha
  refine ⟨⟨hu, ⟨?_, ?_⟩, howner.trans hr.table, ?_⟩, .cons ?_ .nil⟩
  · exact (congrArg Model.isRecord hmodel).trans hr.intact.isRecord
  · intro name hname
    rw [hmodel] at hname
    rw [hattached]
    exact hr.intact.free name hname
  · rw [hd]
    exact hr.database
  · rw [← hvalue, Row.getD, Row.getD, Row.attribute?_of_isFree hcs has,
      Row.attribute?_of_isFree (r := { s with isNew := .bool false }) hcs has]

/-- A new record with a value for the single column of its key takes the number that the driver
reports for its insertion: the value it was given stays only when no number is reported, or the same
one. The record is deleted where the key has the value it is left with. -/
theorem save_takes_number {c : String} {v : Value} (h : Belongs id r t w)
    (hn : r.isNew.isTruthy = true) (hc : r.model.IsFree c)
    (ha : Keyed.hasKey r.attached c = false) (hv : r.givenValue? c = some v)
    (hs : (save id).run.run w = (.ok true, u))
    (hk : Keyed.find? u.primaryKeys t.id = some [.text c]) :
    ∃ before b o later n,
      w.connection.Exchanges (before ++ ⟨b, o⟩ :: later) u.connection ∧
      (∀ x ∈ before, ¬ x.IsInsert) ∧ Sql.insert t.name (Row.plainMap r.givenColumns) = .ok b ∧
      (c, v) ∈ r.givenColumns ∧ o.Reports later n ∧
      (primaryKeyValues id).run.run u = (.ok (some [(c, if n = 0 then v else .int n)]), u) ∧
      (v.items? = none → World.Sent
        [⟨"DELETE FROM " ++ Sql.quote t.name ++ " WHERE " ++ keyText [c],
          [if n = 0 then v else .int n]⟩] u ((delete id).run.run u).2) := by
  obtain ⟨events, z, hi, later_events, rfl⟩ := h.save_new_eq_ok hn hs
  have hw := h.announced events
  obtain ⟨before, b, o, later, n, s, hx, hidle, hb, hreports, hnumbered, hrow, hlength⟩ :=
    hw.insert_eq_ok hi hk
  have hu : ({ z with events := later_events } : World).rows[id]? =
      some { s with isNew := .bool false } := hrow
  obtain ⟨hbelongs, hkey⟩ := hnumbered.belongs hw hc ha hv hu hlength
  refine ⟨before, b, o, later, n, hx, hidle, hb, Row.mem_givenColumns hv, hreports, ?_,
    fun hsingle => ?_⟩
  · have hknown : t.primaryKey.run.run { z with events := later_events } =
        (.ok [.text c], { z with events := later_events }) := by rw [run_primaryKey, hk]
    have hvalues := hkey.keyValues_eq
    rw [List.map_singleton] at hvalues
    rw [hbelongs.run_primaryKeyValues, hknown]
    simp only [List.isEmpty_cons, hvalues]
    rfl
  · have hkeyed : IsKeyed id { s with isNew := .bool false } t [c] [if n = 0 then v else .int n]
        { z with events := later_events } := by
      refine ⟨hbelongs, rfl, by simp, hkey, ?_⟩
      rw [List.forall_mem_singleton]
      split_ifs
      · exact hsingle
      · rfl
    have hkeep : Keeps (World.Reaches fun _ => True) (delete id) { z with events := later_events } :=
      keeps_delete (fun _ _ => trivial) (fun _ _ _ _ _ => trivial) id _
    have hnone : t.keyQuestions { z with events := later_events } = [] := by
      rw [Table.keyQuestions, hk]
      rfl
    have hsent := hkeyed.sent_delete (List.cons_ne_nil c []) (hkeep.keys _ _ hk)
    rwa [hnone, List.nil_append] at hsent

/-- The column and the number of a key that is one number. -/
def keyNumber? : Except Error (Option (List (String × Value))) → Option (String × Int)
  | .ok (some [(c, .int n)]) => some (c, n)
  | _ => none

theorem keyNumber?_eq_some {key : Except Error (Option (List (String × Value)))} {n : Int}
    (h : keyNumber? key = some (c, n)) : key = .ok (some [(c, .int n)]) := by
  unfold keyNumber? at h
  split at h
  · cases h
    rfl
  · cases h

/-- A new record of a table whose key is a code, with the number that the driver gives when it is
asked for the one of the last insertion. -/
def newCountry (number : Int) : World where
  connection := { queue := [.result ["COLUMN_NAME"] [[.text "code"]] 1 .null,
    .result [] [] 1 .null, .result ["last_insert_id"] [[.int number]] 1 .null] }
  databases := [{ name := "shop" }]
  rows := [{
    model := .record
    fields := []
    extras := [("code", .text "nl")]
    given := []
    owner := some (.table ⟨0, "countries", some 0⟩) }]
  nextTable := 1

theorem newCountry_belongs (number : Int) : ∃ r, Belongs 0 r ⟨0, "countries", some 0⟩
    (newCountry number) ∧ r.isNew.isTruthy = true ∧ r.model.IsFree "code" ∧
      Keyed.hasKey r.attached "code" = false ∧ r.givenValue? "code" = some (.text "nl") := by
  refine ⟨_, ⟨rfl, ⟨rfl, fun _ _ => rfl⟩, rfl, 0, rfl, Nat.one_pos⟩, rfl, ⟨?_, ?_, ?_, ?_⟩, rfl, rfl⟩
  all_goals decide

/-- When no number is reported, the key stays what it was given. -/
theorem newCountry_key_kept : ∃ u, (save 0).run.run (newCountry 0) = (.ok true, u) ∧
    (primaryKeyValues 0).run.run u = (.ok (some [("code", .text "nl")]), u) ∧
    World.Sent [⟨"DELETE FROM `countries` WHERE `code` = ?", [.text "nl"]⟩] u
      ((delete 0).run.run u).2 := by
  have hsaved : ((save 0).run.run (newCountry 0)).1.toOption = some true := by decide +kernel
  have hknown : (Keyed.find? ((save 0).run.run (newCountry 0)).2.primaryKeys 0 ==
      some (["code"].map .text)) = true := by decide +kernel
  have htext : keyNumber? ((primaryKeyValues 0).run.run ((save 0).run.run (newCountry 0)).2).1 =
      none := by decide +kernel
  have hdeletion : "DELETE FROM " ++ Sql.quote "countries" ++ " WHERE " ++ keyText ["code"] =
      "DELETE FROM `countries` WHERE `code` = ?" := by decide +kernel
  have hrun := run_eq_of_toOption hsaved
  generalize ((save 0).run.run (newCountry 0)).2 = u at hrun hknown htext
  obtain ⟨r, hr, hn, hc, ha, hv⟩ := newCountry_belongs 0
  obtain ⟨-, -, -, -, n, -, -, -, -, -, hkey, hsent⟩ :=
    save_takes_number hr hn hc ha hv hrun (known_of_beq hknown)
  rw [hkey] at htext
  have hzero : n = 0 := by
    by_contra h
    rw [if_neg h] at htext
    cases htext
  have hdeleted := hsent rfl
  rw [if_pos hzero] at hkey hdeleted
  rw [hdeletion] at hdeleted
  exact ⟨u, hrun, hkey, hdeleted⟩

/-- The number of another row, which the driver gives when none was reported with an insertion,
replaces the key that the row was inserted with. -/
theorem newCountry_key_lost : ∃ r u, (newCountry 42).rows[0]? = some r ∧
    r.isNew.isTruthy = true ∧ r.givenValue? "code" = some (.text "nl") ∧
    (save 0).run.run (newCountry 42) = (.ok true, u) ∧
    (∃ x y, u.connection.sent =
      [x, ⟨"INSERT INTO `countries` SET `code` = ?", [.text "nl"]⟩, y]) ∧
    ((primaryKeyValues 0).run.run u).1 = .ok (some [("code", .int 42)]) := by
  have hsaved : ((save 0).run.run (newCountry 42)).1.toOption = some true := by decide +kernel
  have hlength : ((save 0).run.run (newCountry 42)).2.connection.sent.length = 3 := by
    decide +kernel
  have hsql : ((save 0).run.run (newCountry 42)).2.connection.sent[1]?.map (·.sql) =
      some "INSERT INTO `countries` SET `code` = ?" := by decide +kernel
  have hargs : (((save 0).run.run (newCountry 42)).2.connection.sent[1]?.map (·.args) ==
      some (["nl"].map .text)) = true := by decide +kernel
  have hkey : keyNumber? ((primaryKeyValues 0).run.run ((save 0).run.run (newCountry 42)).2).1 =
      some ("code", 42) := by decide +kernel
  have hrun := run_eq_of_toOption hsaved
  generalize ((save 0).run.run (newCountry 42)).2 = u at hrun hlength hsql hargs hkey
  refine ⟨_, u, rfl, rfl, rfl, hrun, ?_, keyNumber?_eq_some hkey⟩
  obtain ⟨x, ⟨sql, args⟩, y, hsent⟩ := List.length_eq_three.mp hlength
  have hargs := known_of_beq hargs
  rw [hsent] at hsql hargs ⊢
  obtain rfl := Option.some.inj hsql
  obtain rfl := Option.some.inj hargs
  exact ⟨x, y, rfl⟩

end Record

end RowQuery

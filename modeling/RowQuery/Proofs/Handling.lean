import RowQuery.Proofs.CachedRows
import RowQuery.Proofs.Searching

/-! Requests on tables. The tables of a database and tables that stand alone are given by name and
refused for the same name, so a request is prepared on either with the same result; and what a query
on a database asks is sent, whatever it is answered. -/

namespace RowQuery

open Running

/-! ### Tables by name -/

section Tables

variable {w : World} {id : Nat} {d : Database} {name : String}

/-- In this world every name but the empty one gives a table of that name, and leads to a table and
a world of which `Given` holds. -/
structure GivesTables (tableFor : String → Act Table) (w : World) (Given : Table → World → Prop) :
    Prop where
  unnamed : ((tableFor "").run.run w).1 = .error (.argument (.tableName (.text "")))
  named : ∀ name, name ≠ "" → ∃ t u, (tableFor name).run.run w = (.ok t, u) ∧ t.name = name ∧
    Given t u

theorem addTable_gives (database : Option Nat) (w : World) :
    GivesTables (fun name => World.addTable (.text name) database) w
      fun t u => t.database = database ∧ u = { w with nextTable := w.nextTable + 1 } where
  unnamed := rfl
  named _ hn := ⟨_, _, run_addTable_eq_ok.mpr ⟨hn, rfl, rfl⟩, rfl, rfl, rfl⟩

theorem Database.knownTable?_eq_some {t : Table} (h : d.knownTable? id (.text name) = some t) :
    t.name = name ∧ t.database = some id := by
  simp only [knownTable?] at h
  split_ifs at h
  obtain ⟨n, -, rfl⟩ := Option.map_eq_some_iff.mp h
  exact ⟨rfl, rfl⟩

theorem table_gives (hd : w.databases[id]? = some d) :
    GivesTables (fun name => Database.table id (.text name)) w
      fun t u => t.database = some id ∧ ∃ d, u.databases[id]? = some d := by
  have hdatabase : (World.database id).run.run w = (.ok d, w) := by rw [run_database, hd]
  constructor
  · exact congrArg Prod.fst (run_bind_of_ok hdatabase _)
  · intro name hn
    cases hk : d.knownTable? id (.text name) with
    | some t =>
      obtain ⟨hname, hdb⟩ := Database.knownTable?_eq_some hk
      refine ⟨t, w, (run_bind_of_ok hdatabase _).trans ?_, hname, hdb, d, hd⟩
      simp only [hk]
      rfl
    | none =>
      have hadd : (World.addTable (.text name) (some id)).run.run w =
          (.ok { id := w.nextTable, name, database := some id },
            { w with nextTable := w.nextTable + 1 }) := run_addTable_eq_ok.mpr ⟨hn, rfl, rfl⟩
      have hagain : (World.database id).run.run { w with nextTable := w.nextTable + 1 } =
          (.ok d, { w with nextTable := w.nextTable + 1 }) := by
        rw [run_database]
        simp only [hd]
      have hlt : id < w.databases.length := (List.getElem?_eq_some_iff.mp hd).1
      refine ⟨{ id := w.nextTable, name, database := some id }, { w with
        nextTable := w.nextTable + 1
        databases := w.databases.set id { d with tables := Keyed.put d.tables name w.nextTable } },
        (run_bind_of_ok hdatabase _).trans ?_, rfl, rfl, _, List.getElem?_set_self hlt⟩
      simp only [hk]
      exact (run_bind_of_ok hadd _).trans ((run_bind_of_ok hagain _).trans rfl)

end Tables

/-! ### Preparing -/

namespace Service

section Preparing

variable {r : Registry} {payload : Value} {p : Plan} {e : Error} {w : World}
  {tableFor : String → Act Table} {Given : Table → World → Prop}

/-- The plan of a request, unless its entry names no table. -/
def namedPlan (r : Registry) (payload : Value) : Except Error Plan := do
  let e ← entryOf r payload
  if e.2.table = "" then refuse (.tableName (.text ""))
  else
    let options ← e.1.options.mapError ArgumentError.toError
    return { request := e.1, entry := e.2, options }

theorem namedPlan_eq_ok :
    namedPlan r payload = .ok p ↔ plan r payload = .ok p ∧ p.entry.table ≠ "" := by
  rw [namedPlan, plan_eq]
  constructor
  · intro h
    obtain ⟨e, he, h⟩ := Result.bind_eq_ok.mp h
    split_ifs at h with hn
    · cases h
    · rw [he, Result.ok_bind]
      refine ⟨h, ?_⟩
      obtain ⟨options, -, h⟩ := Result.bind_eq_ok.mp h
      obtain rfl := Except.ok.inj h
      exact hn
  · rintro ⟨h, hn⟩
    obtain ⟨e, he, h⟩ := Result.bind_eq_ok.mp h
    obtain ⟨options, ho, h⟩ := Result.bind_eq_ok.mp h
    obtain rfl := Except.ok.inj h
    rw [he, Result.ok_bind, if_neg hn, ho]
    rfl

/-- A request without a plan is refused for the same reason wherever its table is looked for. -/
theorem run_prepare_of_error (ht : GivesTables tableFor w Given)
    (h : namedPlan r payload = .error e) :
    ((prepare r tableFor payload).run.run w).1 = .error e := by
  rw [prepare_eq]
  rw [namedPlan] at h
  generalize entryOf r payload = found at h ⊢
  -- the error is one of the request, of the name of its table, or of the options, in this order
  rcases found with e' | ⟨request, entry⟩
  · obtain rfl : e' = e := Except.error.inj h
    rfl
  · rw [run_bind_of_ok (run_ofExcept _ w)]
    rw [Result.ok_bind] at h
    by_cases hn : entry.table = ""
    · have hunnamed := ht.unnamed
      rw [if_pos hn] at h
      rw [← hn] at hunnamed
      rcases hrun : (tableFor entry.table).run.run w with ⟨e' | table, u⟩ <;> rw [hrun] at hunnamed
      · obtain rfl := Except.error.inj hunnamed
        obtain rfl := Except.error.inj h
        rw [run_bind_of_error hrun, hn]
        rfl
      · cases hunnamed
    · rw [if_neg hn] at h
      obtain ⟨table, u, hrun, -, -⟩ := ht.named entry.table hn
      rw [run_bind_of_ok hrun]
      cases ho : request.options with
      | error e' =>
        rw [ho] at h
        obtain rfl : e'.toError = e := Except.error.inj h
        rfl
      | ok options =>
        rw [ho] at h
        cases h

theorem run_prepare_of_ok (ht : GivesTables tableFor w Given) (h : namedPlan r payload = .ok p) :
    ∃ table u, (prepare r tableFor payload).run.run w =
        (.ok ⟨p.request, p.entry, { table, options := p.options }⟩, u) ∧
      table.name = p.entry.table ∧ Given table u := by
  obtain ⟨hp, hn⟩ := namedPlan_eq_ok.mp h
  obtain ⟨table, u, htable, hname, hgiven⟩ := ht.named p.entry.table hn
  exact ⟨table, u, prepare_eq_ok.mpr ⟨p, table, hp, htable, rfl⟩, hname, hgiven⟩

/-- What is prepared has a plan. -/
theorem namedPlan_of_prepare {q : Prepared} {u : World} (ht : GivesTables tableFor w Given)
    (h : (prepare r tableFor payload).run.run w = (.ok q, u)) :
    namedPlan r payload = .ok ⟨q.request, q.entry, q.query.options⟩ := by
  cases hp : namedPlan r payload with
  | error e =>
    have he := run_prepare_of_error ht hp
    rw [h] at he
    contradiction
  | ok p =>
    obtain ⟨table, t, hrun, -⟩ := run_prepare_of_ok ht hp
    rw [h] at hrun
    obtain rfl := Except.ok.inj (Prod.mk.inj hrun).1
    rfl

/-- A request with a plan is prepared on a database without anything being sent. -/
theorem prepare_on {id : Nat} {d : Database} (hd : w.databases[id]? = some d)
    (h : namedPlan r payload = .ok p) :
    ∃ table u, (prepare r (fun name => Database.table id (.text name)) payload).run.run w =
        (.ok ⟨p.request, p.entry, { table, options := p.options }⟩, u) ∧
      u.connection.sent = w.connection.sent ∧ table.name = p.entry.table ∧
      table.database = some id ∧ ∃ d, u.databases[id]? = some d := by
  obtain ⟨table, u, hrun, hname, hdb, hd'⟩ := run_prepare_of_ok (table_gives hd) h
  have hkeeps : Keeps (World.Reaches fun _ => False)
      (prepare r (fun name => Database.table id (.text name)) payload) w :=
    keeps_prepare fun name u => keeps_table id (.text name) u
  exact ⟨table, u, hrun, World.Reaches.sent_eq (hkeeps.of_run hrun), hname, hdb, hd'⟩

end Preparing

end Service

/-! ### Asking -/

/-- What follows an act and sends nothing leaves what the act has sent. -/
theorem sent_bind {α β : Type} {w : World} (a : Act α) {f : α → Act β}
    (hf : ∀ x t, Keeps (World.Reaches fun _ => False) (f x) t) :
    ((a >>= f).run.run w).2.connection.sent = (a.run.run w).2.connection.sent := by
  rw [run_bind]
  rcases a.run.run w with ⟨e | x, t⟩
  · rfl
  · exact (hf x t).sent_eq

namespace Query

variable {α : Type} {q : Query} {w : World} {id : Nat} {d : Database} {b : BoundSql}

/-- On a database a statement is sent whatever it is answered, and nothing after it. -/
theorem sent_execute_bind {f : Nat → QueryAct α} (hq : q.table.database = some id)
    (hd : w.databases[id]? = some d)
    (hf : ∀ s v, ((f s).run.run v).2.2.connection.sent = v.2.connection.sent) :
    ((execute b >>= f).run.run (q, w)).2.2.connection.sent = w.connection.sent ++ [b] := by
  have hrun := run_execute b hq hd
  cases hqueue : w.connection.queue.headD .empty with
  | failure code text columns =>
    rw [hqueue] at hrun
    rw [run_bind_of_error hrun]
    rfl
  | result columns rows rowCount lastRowId =>
    rw [hqueue] at hrun
    rw [run_bind_of_ok hrun]
    exact hf _ _

/-- A fetch sends its selection. -/
theorem sent_fetch {columns : Value} (hq : q.table.database = some id)
    (hd : w.databases[id]? = some d)
    (hb : Sql.select q.table.name q.options columns = .ok b) :
    ((fetch columns).run.run (q, w)).2.2.connection.sent = w.connection.sent ++ [b] := by
  have hget : (get : QueryAct (Query × World)).run.run (q, w) = (.ok (q, w), (q, w)) := rfl
  have hselected : ((selected columns).run.run (q, w)).2.2.connection.sent =
      w.connection.sent ++ [b] := by
    rw [selected, run_bind_of_ok hget]
    simp only [hb]
    exact sent_execute_bind hq hd (sent_readRows columns q.table)
  rw [fetch_eq, run_bind]
  rcases hrun : (selected columns).run.run (q, w) with ⟨e | ids, u⟩ <;> rw [hrun] at hselected <;>
    exact hselected

/-- A count sends its question, unless rows are kept. -/
theorem sent_count (hr : q.results = none) (hq : q.table.database = some id)
    (hd : w.databases[id]? = some d) (hb : Sql.count q.table.name q.options = .ok b) :
    (count.run.run (q, w)).2.2.connection.sent = w.connection.sent ++ [b] := by
  have hget : (get : QueryAct (Query × World)).run.run (q, w) = (.ok (q, w), (q, w)) := rfl
  rw [count, run_bind_of_ok hget]
  simp only [hr, hb]
  exact sent_execute_bind hq hd sent_readNumber

end Query

end RowQuery

import RowQuery.Proofs.CachedRows
import RowQuery.Proofs.Insertion

/-! Cursors of a session. Whatever is done with databases, tables, queries, records and statements,
each statement that is sent has a cursor of its own, and all cursors are closed when the call ends.
A cursor is open before the arguments are spread, so those that cannot be spread leave it unused.
An execution that fails leaves the rows of all statements as they were. -/

namespace RowQuery

open Running

/-! ### Sessions -/

/-- A world with the queries that were made in it. Databases, statements and rows are known by their
numbers in the world, and queries by their places. -/
structure Session where
  world : World := {}
  queries : List Query := []

namespace Session

/-- An act on the world of a session. -/
def onWorld {α : Type} (a : Act α) (s : Session) : Except Error Unit × Session :=
  let (r, world) := a.run.run s.world
  (r.map fun _ => (), { s with world })

/-- An act of a query of the session. -/
def onQuery {α : Type} (n : Nat) (a : QueryAct α) (s : Session) : Except Error Unit × Session :=
  match s.queries[n]? with
  | none => (.error (.fault .index), s)
  | some q =>
    let (r, q, world) := a.run.run (q, s.world)
    (r.map fun _ => (), { world, queries := s.queries.set n q })

/-- An execution of a statement that was prepared. -/
def execute (n : Nat) (arguments : Value) : Act Unit := do
  let _ ← Statement.get n
  Statement.execute n arguments

theorem run_execute (n : Nat) (arguments : Value) (w : World) :
    (execute n arguments).run.run w = match w.statements[n]? with
      | some _ => (Statement.execute n arguments).run.run w
      | none => (.error (.fault .index), w) := by
  rw [execute, run_bind, run_statement]
  cases w.statements[n]? <;> rfl

/-- A call on a database, a statement, a table, a query or a record, with its arguments. -/
inductive Call
  /-- The driver gets further answers to give. -/
  | script (outcomes : List Outcome)
  | newDatabase (name : String) (models : Value)
  | registerModels (database : Nat) (models : Value)
  | modelForTable (database : Nat) (name : Value)
  | table (database : Nat) (name : Value)
  | query (database : Nat) (sql : String) (arguments model : Value)
  | lastInsertId (database : Nat)
  | close (database : Nat)
  | prepare (database : Nat) (sql : String)
  | execute (statement : Nat) (arguments : Value)
  /-- The columns, the count of rows or the last number of a statement. -/
  | result (statement : Nat)
  | fetchAll (statement : Nat) (model : Value) (t : Option Table)
  | firstColumn (statement : Nat) (index : Int)
  /-- A table that is part of no database. -/
  | newTable (name : Value)
  | model (t : Table)
  | insert (t : Table) (values : Value)
  | insertColumn (t : Table) (column value : Value)
  | primaryKey (t : Table)
  | newRecord (t : Table) (values : Value)
  | newQuery (t : Table) (conditions : List Value)
  | onQuery (query : Nat) (call : Query.Call)
  | first (query : Nat)
  | toSql (query : Nat) (kind columns values : Value)
  /-- A row that is made of values, not of an answer. -/
  | newRow (r : Row)
  /-- What a row tells of itself. -/
  | row (row : Nat)
  | assign (row : Nat) (key value : Value)
  | bind (row : Nat) (t : Table)
  | primaryKeyValues (row : Nat)
  | onRecord (row : Nat) (call : Record.Call)

namespace Call

def run : Call → Session → Except Error Unit × Session
  | .script outcomes => Session.onWorld (modify fun w => { w with connection :=
      { w.connection with queue := w.connection.queue ++ outcomes } } : Act Unit)
  | .newDatabase name models => Session.onWorld (Database.create name models)
  | .registerModels database models => Session.onWorld (Database.registerModels database models)
  | .modelForTable database name => Session.onWorld (Database.modelForTable database name)
  | .table database name => Session.onWorld (Database.table database name)
  | .query database sql arguments m => Session.onWorld (Database.query database sql arguments m)
  | .lastInsertId database => Session.onWorld (Database.lastInsertId database)
  | .close database => Session.onWorld (Database.close database)
  | .prepare database sql => Session.onWorld (Statement.prepare database sql)
  | .execute statement arguments => Session.onWorld (Session.execute statement arguments)
  | .result statement => Session.onWorld (Statement.get statement)
  | .fetchAll statement m t => Session.onWorld (Statement.fetchAll statement m t)
  | .firstColumn statement index => Session.onWorld do
    Act.ofFault ((← Statement.get statement).firstColumn index)
  | .newTable name => Session.onWorld (World.addTable name none)
  | .model t => Session.onWorld t.model
  | .insert t values => Session.onWorld (t.insert values)
  | .insertColumn t column value => Session.onWorld (t.insertColumn column value)
  | .primaryKey t => Session.onWorld t.primaryKey
  | .newRecord t values => Session.onWorld (t.new values)
  | .newQuery t conditions => fun s => match Query.create t conditions with
    | .ok q => (.ok (), { s with queries := s.queries ++ [q] })
    | .error e => (.error e, s)
  | .onQuery n call => Session.onQuery n call.run
  | .first n => Session.onQuery n Query.first
  | .toSql n kind columns values => Session.onQuery n do
    Query.onWorld (Act.ofExcept ((← get).1.toSql kind columns values))
  | .newRow r => Session.onWorld (World.addRow r)
  | .row n => Session.onWorld (World.row n)
  | .assign n key value => Session.onWorld do
    World.setRow n (← Act.ofFault ((← World.row n).set key value))
  | .bind n t => Session.onWorld (Record.bind n t)
  | .primaryKeyValues n => Session.onWorld (Record.primaryKeyValues n)
  | .onRecord n call => Session.onWorld (call.run n)

/-- The cursors that a call opens without sending anything: arguments that cannot be spread are
refused when the cursor is open. -/
def unused (s : Session) : Call → Nat
  | .query database _ arguments _ =>
    if s.world.databases[database]?.isSome ∧ arguments.bound? = none then 1 else 0
  | .execute statement arguments =>
    if s.world.statements[statement]?.isSome ∧ arguments.bound? = none then 1 else 0
  | _ => 0

end Call

/-- A session after some calls, whether they fail or not. -/
def after (calls : List Call) (s : Session) : Session :=
  calls.foldl (fun s call => (call.run s).2) s

/-- The cursors that some calls open without sending anything. -/
def unused : List Call → Session → Nat
  | [], _ => 0
  | call :: calls, s => call.unused s + unused calls (call.run s).2

/-- The rows, the count and the last number of every statement, with its text. -/
def results (s : Session) : List (String × List (List Value) × Int × Value) :=
  s.world.statements.map fun p => (p.sql, p.rows, p.rowCount, p.lastRowId)

end Session

/-! ### Acts -/

/-- What is done between two worlds opens `unused` cursors without a statement. -/
abbrev World.Cursors (unused : Nat) : World → World → Prop :=
  Function.onFun (Connection.Cursors unused) World.connection

instance : Std.Refl (World.Cursors 0) := ⟨fun w => .refl w.connection⟩

instance : IsTrans World (World.Cursors 0) := ⟨fun _ _ _ h hd => h.trans hd⟩

/-- Every statement has a cursor of its own. -/
abbrev KeepsCursors {α : Type} (a : Act α) (w : World) : Prop := Keeps (World.Cursors 0) a w

section Acts

variable {α : Type} {w : World}

theorem keepsCursors_of_reaches {a : Act α} (h : Keeps (World.Reaches fun _ => True) a w) :
    KeepsCursors a w := h.mono fun _ h => h.cursors

/-- The connection is left alone. -/
theorem keepsCursors_of_eq {a : Act α} (h : (a.run.run w).2.connection = w.connection) :
    KeepsCursors a w := by
  change w.connection.Cursors 0 _
  rw [h]
  exact .refl _

theorem keepsCursors_create (name : String) (models : Value) (w : World) :
    KeepsCursors (Database.create name models) w := by
  have hadd (d : Database) (u : World) : KeepsCursors (World.addDatabase d) u :=
    keepsCursors_of_eq rfl
  unfold Database.create
  split_ifs
  · exact .bind_reads (reads_ofExcept _ w) fun d _ => hadd d w
  · exact .bind_reads (.pure _ w) fun d _ => hadd d w

theorem keepsCursors_registerModels (id : Nat) (models : Value) (w : World) :
    KeepsCursors (Database.registerModels id models) w := by
  refine .bind_reads (reads_database id w) fun d _ => ?_
  exact .bind_reads (reads_ofExcept _ w) fun d _ => keepsCursors_of_eq rfl

theorem reads_modelForTable (id : Nat) (name : Value) (w : World) :
    Reads (Database.modelForTable id name) w := by
  unfold Database.modelForTable
  split
  · exact .bind (reads_database id w) fun d _ => .pure _ w
  · exact .throw _ w

theorem keepsCursors_prepare (id : Nat) (sql : String) (w : World) :
    KeepsCursors (Statement.prepare id sql) w := by
  refine keepsCursors_of_eq ?_
  cases hd : w.databases[id]? with
  | none => rw [Statement.run_prepare_none hd]
  | some d => rw [Statement.run_prepare hd]

theorem keepsCursors_new (t : Table) (values : Value) (w : World) :
    KeepsCursors (t.new values) w := by
  refine .bind_reads (reads_ofFault _ w) fun columns _ => ?_
  refine .bind_reads (reads_model t w) fun m _ => ?_
  dsimp only
  split_ifs
  · exact .throw _ w
  · refine .bind_reads (reads_ofFault _ w) fun r _ => ?_
    exact keepsCursors_of_eq rfl

theorem keepsCursors_insert (t : Table) (values : Value) (w : World) :
    KeepsCursors (t.insert values) w :=
  keepsCursors_of_reaches (t.keeps_insert (fun _ _ _ => trivial) w)

theorem keepsCursors_insertColumn (t : Table) (column value : Value) (w : World) :
    KeepsCursors (t.insertColumn column value) w := by
  unfold Table.insertColumn
  dsimp only
  split_ifs
  · exact .throw _ w
  · exact keepsCursors_insert t _ w

theorem keepsCursors_save (id : Nat) (w : World) : KeepsCursors (Record.save id) w := by
  have hannounce (name : String) (e : Event) (u : World) :
      KeepsCursors (Record.announce id name e) u :=
    keepsCursors_of_reaches (Record.keeps_announce id name e u)
  have hinsert (t : Table) (u : World) : KeepsCursors (Record.insert id t) u :=
    Record.keeps_insert (Q := fun _ => True) (fun _ _ _ => keepsCursors_of_eq rfl)
      (fun _ _ h => h.cursors) (fun _ => trivial) (fun _ _ => trivial)
      (fun _ _ _ _ _ => trivial) id t u
  have hupdate (u : World) : KeepsCursors (Record.update id) u :=
    keepsCursors_of_reaches (Record.keeps_update (fun _ _ => trivial)
      (fun _ _ _ _ _ _ => trivial) id u)
  have hafter (success : Bool) (u : World) : KeepsCursors (do
      Record.announce id "after_saving" (.afterSaving success)
      return success) u :=
    .bind (hannounce _ _ u) fun _ v _ => .pure success v
  refine .bind_reads (Record.reads_calling id _ w) fun _ _ => ?_
  refine .bind_reads (Record.reads_owner id w) fun o _ => ?_
  refine .bind (hannounce _ _ w) fun _ u _ => ?_
  refine .bind_reads (reads_row id u) fun r _ => ?_
  split_ifs
  · refine .bind_reads (Record.reads_tableOf o u) fun t _ => ?_
    exact .bind (hinsert t u) fun success v _ => hafter success v
  · exact .bind (hupdate u) fun success v _ => hafter success v

/-- So has every statement of a query. -/
theorem cursors_steps : Query.Steps (Function.onFun (World.Cursors 0) Prod.snd) where
  configure _ p := .refl p.2.connection
  setResults _ p := .refl p.2.connection
  execute b p := keeps_execute (fun w _ _ _ => Connection.Cursors.send w.connection b) p
  fetchAll s model t p := keeps_onWorld (keepsCursors_of_reaches (keeps_fetchAll s model t p.2))

end Acts

namespace Statement

variable {n : Nat} {arguments : Value} {w : World} {s : Prepared}

/-- An execution opens one cursor and closes it, and sends the statement on it unless its arguments
are refused. -/
theorem cursors_execute (hs : w.statements[n]? = some s) (arguments : Value) :
    World.Cursors (if arguments.bound? = none then 1 else 0) w
      ((execute n arguments).run.run w).2 := by
  rw [run_execute]
  cases ha : arguments.bound? with
  | none =>
    rw [run_run_refused (w := { w with connection := w.connection.openCursor }) hs ha, if_pos rfl]
    exact .unused w.connection
  | some args =>
    rw [run_run (w := { w with connection := w.connection.openCursor }) hs ha, if_neg nofun]
    cases w.connection.openCursor.queue.headD .empty <;> exact .send w.connection _

/-- An execution that fails leaves all statements as they were, but for the columns of its own if the
driver failed after it had given some. -/
theorem execute_eq_error {e : Error} (h : ((execute n arguments).run.run w).1 = .error e) :
    ((execute n arguments).run.run w).2.statements = w.statements ∨
      ∃ s code text columns, w.statements[n]? = some s ∧
        w.connection.queue.headD .empty = .failure code text columns ∧
        ((execute n arguments).run.run w).2.statements =
          w.statements.set n (s.interrupt columns) := by
  rw [run_execute] at h ⊢
  cases hs : w.statements[n]? with
  | none =>
    have hget : (Statement.get n).run.run { w with connection := w.connection.openCursor } =
        (.error (.fault .index), { w with connection := w.connection.openCursor }) := by
      rw [run_statement, hs]
    rw [run, run_bind_of_error hget]
    exact .inl rfl
  | some s =>
    cases ha : arguments.bound? with
    | none =>
      rw [run_run_refused (w := { w with connection := w.connection.openCursor }) hs ha]
      exact .inl rfl
    | some args =>
      have hrun := run_run (w := { w with connection := w.connection.openCursor }) hs ha
      rw [hrun] at h ⊢
      cases hq : w.connection.queue.headD .empty with
      | failure code text columns =>
        have hopen : w.connection.openCursor.queue.headD .empty = .failure code text columns := hq
        rw [hopen]
        exact .inr ⟨s, code, text, columns, rfl, rfl, rfl⟩
      | result columns rows rowCount lastRowId =>
        have hopen : w.connection.openCursor.queue.headD .empty =
            .result columns rows rowCount lastRowId := hq
        rw [hopen] at h
        cases h

end Statement

/-- Running SQL opens one cursor and closes it, and sends the text on it unless its arguments are
refused. -/
theorem Database.cursors_query {id : Nat} {d : Database} {w : World}
    (hd : w.databases[id]? = some d) (sql : String) (arguments model : Value) :
    World.Cursors (if arguments.bound? = none then 1 else 0) w
      ((query id sql arguments model).run.run w).2 := by
  cases ha : arguments.bound? with
  | none =>
    have hrun : (query id sql arguments model).run.run w = _ :=
      Statement.run_ask_refused sql _ hd ha
    rw [hrun, if_pos rfl]
    exact .unused w.connection
  | some args =>
    rw [if_neg nofun]
    exact keepsCursors_of_reaches (keeps_query ha fun _ => trivial)

namespace Session

variable {s : Session}

/-- What a call does with cursors. -/
theorem Call.cursors (call : Call) (s : Session) :
    World.Cursors (call.unused s) s.world (call.run s).2.world := by
  have honWorld {α : Type} {a : Act α} (h : KeepsCursors a s.world) :
      World.Cursors 0 s.world (Session.onWorld a s).2.world := h
  have hreaches {α : Type} {a : Act α} (h : Keeps (World.Reaches fun _ => True) a s.world) :
      World.Cursors 0 s.world (Session.onWorld a s).2.world := honWorld (keepsCursors_of_reaches h)
  have hreads {α : Type} {a : Act α} (h : Reads a s.world) :
      World.Cursors 0 s.world (Session.onWorld a s).2.world := honWorld (.of_reads h)
  have honQuery {α : Type} {a : QueryAct α} (n : Nat)
      (h : ∀ p, Keeps (Function.onFun (World.Cursors 0) Prod.snd) a p) :
      World.Cursors 0 s.world (Session.onQuery n a s).2.world := by
    unfold Session.onQuery
    split
    · exact .refl _
    · rename_i q _
      exact h (q, s.world)
  cases call with
  | script outcomes => exact ⟨rfl, rfl⟩
  | newDatabase name models => exact honWorld (keepsCursors_create name models _)
  | registerModels d models => exact honWorld (keepsCursors_registerModels d models _)
  | modelForTable d name => exact hreads (reads_modelForTable d name _)
  | table d name => exact hreaches (keeps_table d name _)
  | query d sql arguments m =>
    change World.Cursors
      (if (s.world.databases[d]?).isSome ∧ arguments.bound? = none then 1 else 0) s.world
      ((Database.query d sql arguments m).run.run s.world).2
    cases hd : s.world.databases[d]? with
    | none =>
      have hrun : (Database.query d sql arguments m).run.run s.world = _ :=
        run_bind_of_error (Statement.run_prepare_none hd) _
      rw [hrun]
      exact .refl _
    | some database => simpa using Database.cursors_query hd sql arguments m
  | lastInsertId d => exact hreaches (keeps_lastInsertId fun _ => trivial)
  | close d => exact honWorld (.bind_reads (reads_database d _) fun _ _ => keepsCursors_of_eq rfl)
  | prepare d sql => exact honWorld (keepsCursors_prepare d sql _)
  | execute n arguments =>
    change World.Cursors
      (if (s.world.statements[n]?).isSome ∧ arguments.bound? = none then 1 else 0) s.world
      ((Session.execute n arguments).run.run s.world).2
    rw [run_execute]
    cases hs : s.world.statements[n]? with
    | none => exact .refl _
    | some p => simpa using Statement.cursors_execute hs arguments
  | result n => exact hreads (reads_statement n _)
  | fetchAll n m t => exact hreaches (keeps_fetchAll n m t _)
  | firstColumn n index => exact hreads (.bind (reads_statement n _) fun r _ => reads_ofFault _ _)
  | newTable name => exact hreaches (keeps_addTable name none _)
  | model t => exact hreads (reads_model t _)
  | insert t values => exact honWorld (keepsCursors_insert t values _)
  | insertColumn t column value => exact honWorld (keepsCursors_insertColumn t column value _)
  | primaryKey t => exact hreaches (keeps_primaryKey t fun _ => trivial)
  | newRecord t values => exact honWorld (keepsCursors_new t values _)
  | newQuery t conditions =>
    rw [Call.run]
    split <;> exact .refl _
  | onQuery n call => exact honQuery n (cursors_steps.call call)
  | first n =>
    exact honQuery n fun p => .bind (cursors_steps.fetch .null p) fun _ u _ => .pure _ u
  | toSql n kind columns values => exact honQuery n fun p => .bind_reads rfl fun _ _ => .refl _
  | newRow r => exact hreaches (keeps_addRow r _)
  | row n => exact hreads (reads_row n _)
  | assign n key value =>
    refine honWorld (.bind_reads (reads_row n _) fun r _ => ?_)
    exact .bind_reads (reads_ofFault _ _) fun _ _ => keepsCursors_of_eq rfl
  | bind n t =>
    exact honWorld (.bind_reads (Record.reads_calling n _ _) fun _ _ => keepsCursors_of_eq rfl)
  | primaryKeyValues n => exact hreaches (Record.keeps_primaryKeyValues (fun _ _ => trivial) n _)
  | onRecord n call =>
    cases call with
    | save => exact honWorld (keepsCursors_save n _)
    | delete =>
      exact hreaches (Record.keeps_delete (fun _ _ => trivial) (fun _ _ _ _ _ => trivial) n _)

theorem after_cons (call : Call) (calls : List Call) (s : Session) :
    after (call :: calls) s = after calls (call.run s).2 := rfl

/-- What a run does with cursors. -/
theorem after_cursors (calls : List Call) (s : Session) :
    World.Cursors (unused calls s) s.world (after calls s).world := by
  induction calls generalizing s with
  | nil => exact .refl _
  | cons call calls ih =>
    rw [after_cons, unused]
    exact (call.cursors s).trans (ih _)

theorem execute_eq_error {n : Nat} {arguments : Value} {e : Error}
    (h : ((Call.execute n arguments).run s).1 = .error e) :
    ((Call.execute n arguments).run s).2.world.statements = s.world.statements ∨
      ∃ p code text columns, s.world.statements[n]? = some p ∧
        s.world.connection.queue.headD .empty = .failure code text columns ∧
        ((Call.execute n arguments).run s).2.world.statements =
          s.world.statements.set n (p.interrupt columns) := by
  replace h : ((execute n arguments).run.run s.world).1.map (fun _ => ()) = .error e := h
  change ((execute n arguments).run.run s.world).2.statements = _ ∨ ∃ p code text columns, _ ∧ _ ∧
    ((execute n arguments).run.run s.world).2.statements = _
  rw [run_execute] at h ⊢
  cases hs : s.world.statements[n]? with
  | none => exact .inl rfl
  | some p =>
    simp only [hs] at h ⊢
    cases hrun : ((Statement.execute n arguments).run.run s.world).1 with
    | error e => simpa only [hs] using Statement.execute_eq_error hrun
    | ok _ =>
      rw [hrun] at h
      cases h

/-- A statement that gets new columns keeps the rest of its result. -/
theorem results_interrupt {n : Nat} {p : Prepared} (hp : s.world.statements[n]? = some p)
    (columns : List String) :
    results { s with world.statements := s.world.statements.set n (p.interrupt columns) } =
      s.results := by
  obtain ⟨hn, rfl⟩ := List.getElem?_eq_some_iff.mp hp
  refine List.ext_getElem (by simp [results]) fun i _ _ => ?_
  simp only [results, List.getElem_map, List.getElem_set]
  split_ifs with hi
  · subst hi
    rfl
  · rfl

/-- After any calls all cursors are closed. There were as many as statements were sent, and one more
for each execution whose arguments cannot be spread. An execution that fails leaves the rows, the
count and the last number of every statement as they were, and the columns with them when the driver
fails before it gives any. -/
theorem cursors_are_closed (calls : List Call) :
    let s := after calls {}
    s.world.connection.closed = s.world.connection.opened ∧
      s.world.connection.opened = s.world.connection.sent.length + unused calls {} ∧
      ∀ n arguments e, ((Call.execute n arguments).run s).1 = .error e →
        ((Call.execute n arguments).run s).2.results = s.results ∧
        ((∀ code text columns,
            s.world.connection.queue.headD .empty = .failure code text columns → columns = []) →
          ((Call.execute n arguments).run s).2.world.statements = s.world.statements) := by
  obtain ⟨hopened, hclosed⟩ := after_cursors calls {}
  have hcount : (after calls {}).world.connection.opened =
      (after calls {}).world.connection.sent.length + unused calls {} := by
    simpa using hopened
  refine ⟨?_, hcount, fun n arguments e h => ?_⟩
  · rw [hcount]
    simpa using hclosed
  · rcases execute_eq_error h with hsame | ⟨p, code, text, columns, hp, hq, hset⟩
    · exact ⟨congrArg (List.map _) hsame, fun _ => hsame⟩
    · refine ⟨(congrArg (List.map _) hset).trans (results_interrupt hp columns), fun hnone => ?_⟩
      obtain ⟨hn, rfl⟩ := List.getElem?_eq_some_iff.mp hp
      obtain rfl := hnone code text columns hq
      exact hset.trans (List.set_getElem_self hn)

/-- Calls after which a statement has a result of one row, and the driver will fail. -/
def userRead : List Call :=
  [.script [.result ["id"] [[.int 1]] 1 .null, .failure 2006 "gone"], .newDatabase "shop" .null,
    .prepare 0 "SELECT id FROM users WHERE id = ?", .execute 0 (.list [.int 1])]

/-- The row outlives an execution that fails. -/
theorem userRead_outlives_failure :
    (after userRead {}).world.connection.opened =
        (after userRead {}).world.connection.sent.length ∧
      ((Call.execute 0 (.list [.int 2])).run (after userRead {})).1 =
        .error (.database (.driver 2006 "gone")) ∧
      ((Call.execute 0 (.list [.int 2])).run (after userRead {})).2.world.statements =
        (after userRead {}).world.statements ∧
      (after userRead {}).world.statements.map (·.rows) = [[[.int 1]]] := by
  obtain ⟨-, hcount, hfailed⟩ := cursors_are_closed userRead
  have hnone : ∀ code text columns,
      (after userRead {}).world.connection.queue.headD .empty = .failure code text columns →
        columns = [] := by
    intro code text columns h
    cases h
    rfl
  exact ⟨hcount, rfl, (hfailed 0 _ _ rfl).2 hnone, rfl⟩

/-- Arguments that are no sequence leave a cursor unused. -/
theorem opened_ne_sent : ¬ ∀ calls : List Call,
    (after calls {}).world.connection.opened = (after calls {}).world.connection.sent.length :=
  fun h => absurd (h [.newDatabase "shop" .null, .prepare 0 "SELECT 1", .execute 0 (.int 5)])
    Nat.one_ne_zero

end Session

end RowQuery

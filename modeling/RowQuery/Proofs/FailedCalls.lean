import RowQuery.Proofs.CachedRows
import RowQuery.Proofs.WellFormed

/-! Calls that fail. A call that asks the database compiles its statement first, and a change of
rows forgets the rows kept before it sends anything. What fails to compile is refused before that,
what is sent fails by the driver, and an answer that cannot be read fails with a fault. So the error
tells what a failed call has done. -/

namespace RowQuery

open Running

/-! ### Errors by cause -/

namespace Error

/-- A refusal of an argument, or of clauses that the statement does not take. -/
inductive IsRefusal : Error → Prop
  | argument (e : ArgumentError) : IsRefusal (.argument e)
  | clauses (operation : String) (keys : List Clause) : IsRefusal (.clauses operation keys)

def IsFault (e : Error) : Prop := ∃ f, e = .fault f

/-- What the driver answered. -/
def IsDriver (e : Error) : Prop := ∃ code text, e = .database (.driver code text)

/-- An error that is found before anything is sent. -/
def IsEarly (e : Error) : Prop := e.IsRefusal ∨ e.IsFault

/-- A refusal that cannot be told is a fault. -/
theorem isEarly_toError (e : ArgumentError) : e.toError.IsEarly := by
  rcases e.toError_cases with h | h
  · exact .inl (h ▸ .argument e)
  · exact .inr ⟨_, h⟩

end Error

/-! ### Compiling -/

theorem fails_argument {α : Type} (x : Except ArgumentError α) :
    Result.Fails Error.IsEarly (x.mapError ArgumentError.toError) :=
  .mapError Error.isEarly_toError x

theorem Value.fails_integer (v : Value) : Result.Fails Error.IsFault v.integer := by
  refine .mapError (fun e => ?_) v.toInteger
  cases e <;> exact ⟨_, rfl⟩

theorem Value.fails_integerText (v : Value) : Result.Fails Error.IsFault v.integerText := by
  refine .bind v.fails_integer fun n => ?_
  unfold written
  split_ifs
  · exact .ok _
  · exact .error ⟨_, rfl⟩

theorem Options.fails_clause (o : Options) (k : Clause) :
    Result.Fails Error.IsEarly (o.clause k) := by
  have hinteger : ∀ v : Value, Result.Fails Error.IsEarly v.integerText :=
    fun v e he => .inr (v.fails_integerText e he)
  rw [clause.eq_def]
  cases k with
  | condition =>
    dsimp only
    split
    · exact .ok _
    · exact (fails_argument _).map _
  | having =>
    dsimp only
    split
    · exact .ok _
    · exact (fails_argument _).map _
  | grouping =>
    dsimp only
    split <;> exact .ok _
  | ordering =>
    dsimp only
    split <;> exact .ok _
  | offset => exact .ok _
  | limit =>
    dsimp only
    split
    · exact .ok _
    · exact .bind (hinteger _) fun _ => .ok _
    · exact .bind (hinteger _) fun _ => .bind (hinteger _) fun _ => .ok _

theorem Options.fails_assemble (o : Options) (allowed : List Clause) (operation : String) :
    Result.Fails Error.IsEarly (o.assemble allowed operation) := by
  have hall : ∀ ks, Result.Fails Error.IsEarly (o.clausesOf ks) := by
    intro ks
    induction ks with
    | nil => exact .ok _
    | cons k ks ih => exact .bind (o.fails_clause k) fun _ => .bind ih fun _ => .ok _
  unfold assemble
  split
  · exact hall _
  · exact .error (.inl (.clauses _ _))

/-- What cannot be compiled is found before anything is sent. -/
theorem Statement.fails_build (table : String) (o : Options) (st : Statement) :
    Result.Fails Error.IsEarly (st.build table o) := by
  cases st with
  | select columns =>
    exact .bind (o.fails_assemble _ _) fun _ => .bind (fails_argument _) fun _ => .ok _
  | count => exact .bind (o.fails_assemble _ _) fun _ => .ok _
  | update values =>
    exact .bind (o.fails_assemble _ _) fun _ => .bind (fails_argument _) fun _ => .ok _
  | delete => exact .bind (o.fails_assemble _ _) fun _ => .ok _
  | insert values => exact .bind (fails_argument _) fun _ => .ok _

/-! ### Reading answers -/

theorem fails_ofFault {α : Type} (r : Except Fault α) : Fails Error.IsFault (Act.ofFault r) :=
  fun _ => .mapError (fun f => ⟨f, rfl⟩) r

theorem fails_statement (id : Nat) : Fails Error.IsFault (Statement.get id) := by
  intro w
  rw [run_statement]
  split
  · exact .ok _
  · exact .error ⟨_, rfl⟩

theorem fails_model (t : Table) : Fails Error.IsFault t.model := by
  have hid : Fails Error.IsFault t.databaseId := by
    intro w
    rw [run_databaseId]
    split
    · exact .ok _
    · exact .error ⟨_, rfl⟩
  have hdatabase : ∀ id, Fails Error.IsFault (World.database id) := by
    intro id w
    rw [run_database]
    split
    · exact .ok _
    · exact .error ⟨_, rfl⟩
  exact hid.bind fun id => (hdatabase id).bind fun d => .pure _

theorem fails_fetchAll (id : Nat) (model : Value) (t : Option Table) :
    Fails Error.IsFault (Statement.fetchAll id model t) := by
  refine (fails_statement id).bind fun s => (fails_ofFault _).bind fun rows => ?_
  exact .mapM fun r w => .ok _

namespace Query

variable {α : Type} {q : Query} {w : World} {p u : Query × World} {d : Nat} {db : Database}
  {r : Except Error BoundSql} {b : BoundSql} {e : Error}

theorem fails_onWorld {P : Error → Prop} {a : Act α} (h : Fails P a) :
    Fails P (onWorld a) := by
  intro p
  rw [run_onWorld]
  exact h p.2

/-- What an answer is read with leaves the query as it is, sends nothing and fails with faults. -/
structure ReadsAnswer (a : QueryAct α) : Prop where
  same : ∀ p, Keeps SameQuery a p
  sent : ∀ p, (a.run.run p).2.2.connection.sent = p.2.connection.sent
  fails : Fails Error.IsFault a

theorem readsAnswer_rows (columns : Value) (t : Table) (s : Nat) : ReadsAnswer
    (match columns with
      | .null => onWorld do Statement.fetchAll s (.model (← t.model)) (some t)
      | _ => onWorld (Statement.fetchAll s (.model .result) none)) where
  same := by
    intro p
    split <;> exact same_onWorld _ p
  sent := sent_readRows columns t s
  fails := by
    split
    · exact fails_onWorld ((fails_model t).bind fun m => fails_fetchAll s _ _)
    · exact fails_onWorld (fails_fetchAll s _ _)

theorem readsAnswer_number (s : Nat) : ReadsAnswer (onWorld do
    let v ← Act.ofFault (← Statement.get s).firstColumn
    if v.isTruthy then Act.ofExcept v.integer else return 0) where
  same := same_onWorld _
  sent := sent_readNumber s
  fails := by
    refine fails_onWorld ((fails_statement s).bind fun r => (fails_ofFault _).bind fun v => ?_)
    split_ifs
    · exact fun _ => Value.fails_integer v
    · exact .pure 0

theorem readsAnswer_rowCount (s : Nat) :
    ReadsAnswer (do return (← onWorld (Statement.get s)).rowCount) where
  same := fun p => .bind (same_onWorld _ p) fun r u _ => .pure r.rowCount u
  sent := by
    intro p
    have hget : ∀ w, Keeps (World.Reaches fun _ => False) (Statement.get s) w :=
      fun w => .of_reads (reads_statement s w)
    have hrun : ((do return (← onWorld (Statement.get s)).rowCount : QueryAct Int).run.run p).2 =
        ((onWorld (Statement.get s)).run.run p).2 :=
      Reads.snd_run_bind (f := fun r : Prepared => (pure r.rowCount : QueryAct Int))
        (fun r u => .pure r.rowCount u) _ p
    rw [hrun]
    exact sent_of_reaches hget p
  fails := (fails_onWorld (fails_statement s)).bind fun r => .pure r.rowCount

/-- How a call on a query fails: it is not compiled, and nothing happens, or the compiled statement
is sent, and the driver fails or gives an answer that cannot be read. -/
def FailsWith (r : Except Error BoundSql) (left : Query) (p : Query × World) (e : Error)
    (u : Query × World) : Prop :=
  (r = .error e ∧ u = p) ∨
    ∃ b, r = .ok b ∧ u.1 = left ∧ u.2.connection.sent = p.2.connection.sent ++ [b] ∧
      (e.IsDriver ∨ e.IsFault)

theorem ask_eq_error {read : Nat → QueryAct α} (hread : ∀ s, ReadsAnswer (read s))
    (hq : q.table.database = some d) (hd : w.databases[d]? = some db)
    (h : (ask r read).run.run (q, w) = (.error e, u)) : FailsWith r q (q, w) e u := by
  cases r with
  | error c =>
    have hrun : (ask (.error c) read).run.run (q, w) = (.error c, (q, w)) := rfl
    obtain ⟨he, rfl⟩ := Prod.mk.inj (hrun.symm.trans h)
    exact .inl ⟨congrArg _ (Except.error.inj he), rfl⟩
  | ok b =>
    have hcompile : (onWorld (Act.ofExcept (.ok b))).run.run (q, w) = (.ok b, (q, w)) := rfl
    rw [ask, run_bind_of_ok hcompile, run_bind, run_execute b hq hd] at h
    refine .inr ⟨b, rfl, ?_⟩
    cases hqueue : w.connection.queue.headD .empty with
    | failure code text columns =>
      rw [hqueue] at h
      cases h
      exact ⟨rfl, rfl, .inl ⟨code, text, rfl⟩⟩
    | result columns rows rowCount lastRowId =>
      rw [hqueue] at h
      obtain ⟨v, hv, h⟩ : ∃ v : World, v.connection.sent = w.connection.sent ++ [b] ∧
          (read w.statements.length).run.run (q, v) = (.error e, u) := ⟨_, rfl, h⟩
      have hreads := hread w.statements.length
      have hsame : q = u.1 := (hreads.same (q, v)).of_run h
      have hsent := hreads.sent (q, v)
      rw [h, hv] at hsent
      exact ⟨hsame.symm, hsent, .inr (hreads.fails _ e (congrArg Prod.fst h))⟩

theorem change_eq_error (hq : q.table.database = some d) (hd : w.databases[d]? = some db)
    (h : (change r).run.run (q, w) = (.error e, u)) :
    FailsWith r { q with results := none } (q, w) e u := by
  cases r with
  | error c =>
    have hrun : (change (.error c)).run.run (q, w) = (.error c, (q, w)) := rfl
    obtain ⟨he, rfl⟩ := Prod.mk.inj (hrun.symm.trans h)
    exact .inl ⟨congrArg _ (Except.error.inj he), rfl⟩
  | ok b =>
    -- once it is compiled, a change is an ordinary question of a query without rows
    have hrun : (change (.ok b)).run.run (q, w) =
        (ask (.ok b) fun s => do return (← onWorld (Statement.get s)).rowCount).run.run
          ({ q with results := none }, w) := rfl
    rw [hrun] at h
    rcases ask_eq_error (q := { q with results := none }) readsAnswer_rowCount hq hd h with
      ⟨hc, -⟩ | ⟨c, hc, hleft⟩
    · contradiction
    · exact .inr ⟨c, hc, hleft⟩

theorem fetch_eq_error {columns : Value} (hq : q.table.database = some d)
    (hd : w.databases[d]? = some db)
    (h : (fetch columns).run.run (q, w) = (.error e, u)) :
    FailsWith (Sql.select q.table.name q.options columns) q (q, w) e u := by
  have hget : (get : QueryAct (Query × World)).run.run (q, w) = (.ok (q, w), (q, w)) := rfl
  rw [fetch_eq] at h
  have h := error_of_bind (fun ids p => .ok ids) h
  rw [selected, run_bind_of_ok hget] at h
  exact ask_eq_error (readsAnswer_rows columns q.table) hq hd h

theorem count_eq_error (hq : q.table.database = some d) (hd : w.databases[d]? = some db)
    (h : count.run.run (q, w) = (.error e, u)) :
    FailsWith (Sql.count q.table.name q.options) q (q, w) e u := by
  have hget : (get : QueryAct (Query × World)).run.run (q, w) = (.ok (q, w), (q, w)) := rfl
  rw [count, run_bind_of_ok hget] at h
  dsimp only at h
  split at h
  · cases h
  · exact ask_eq_error readsAnswer_number hq hd h

/-! ### Terminal calls -/

/-- A call that asks the database at once. -/
inductive Terminal
  | fetch (columns : Value)
  | count
  | update (values : Value)
  | updateColumn (column value : Value)
  | delete

namespace Terminal

def call : Terminal → Call
  | .fetch columns => .fetch columns
  | .count => .count
  | .update values => .update values
  | .updateColumn column value => .updateColumn column value
  | .delete => .delete

/-- The call changes rows. -/
def changes : Terminal → Bool
  | .fetch _ => false
  | .count => false
  | _ => true

/-- The statement that a call compiles for a query; one value alone needs the name of a column. -/
def compiled (q : Query) : Terminal → Except Error BoundSql
  | .fetch columns => Sql.select q.table.name q.options columns
  | .count => Sql.count q.table.name q.options
  | .update values => Sql.update q.table.name q.options values
  | .updateColumn column value => match column with
    | .text _ => Sql.update q.table.name q.options (.map [(column, value)])
    | _ => .error (.argument .valueAlone)
  | .delete => Sql.delete q.table.name q.options

theorem fails_compiled (t : Terminal) (q : Query) :
    Result.Fails Error.IsEarly (t.compiled q) := by
  have hbuild := Statement.fails_build q.table.name q.options
  cases t with
  | fetch columns => exact hbuild (.select columns)
  | count => exact hbuild .count
  | update values => exact hbuild (.update values)
  | updateColumn column value =>
    unfold compiled
    dsimp only
    split
    · exact hbuild (.update _)
    · exact .error (.inl (.argument _))
  | delete => exact hbuild .delete

/-- What a query is left as when a call that was sent fails. -/
def left (t : Terminal) (q : Query) : Query :=
  { q with results := if t.changes then none else q.results }

theorem run_eq_error {t : Terminal} (hq : q.table.database = some d)
    (hd : w.databases[d]? = some db) (h : t.call.run.run.run (q, w) = (.error e, u)) :
    FailsWith (t.compiled q) (t.left q) (q, w) e u := by
  have hanswer : ∀ {α : Type} {a : QueryAct α},
      (do let _ ← a : QueryAct Unit).run.run (q, w) = (.error e, u) →
        a.run.run (q, w) = (.error e, u) := fun h => error_of_bind (fun _ _ => .ok ()) h
  cases t with
  | fetch columns => exact fetch_eq_error hq hd (hanswer h)
  | count => exact count_eq_error hq hd (hanswer h)
  | update values =>
    have h := hanswer h
    rw [run_update] at h
    exact change_eq_error hq hd h
  | updateColumn column value =>
    have h := hanswer h
    rw [updateColumn.eq_def] at h
    split at h
    · rw [run_update] at h
      exact change_eq_error hq hd h
    · rename_i hne
      cases h
      refine .inl ⟨?_, rfl⟩
      rw [compiled]
      exact hne
  | delete =>
    have h := hanswer h
    rw [run_delete] at h
    exact change_eq_error hq hd h

/-- On a grouped query no change is compiled. -/
theorem compiled_of_grouped {t : Terminal} (ht : t.changes = true)
    (hg : q.options.grouping.isSome ∨ q.options.having.isSome) :
    ∃ e, e.IsRefusal ∧ t.compiled q = .error e := by
  have hextra : Statement.delete.refused q.options ≠ [] := by
    rw [Options.refused_delete, ne_eq, List.filter_eq_nil_iff]
    intro hnone
    rcases hg with hg | hg
    · exact hnone .grouping (by simp) hg
    · exact hnone .having (by simp) hg
  -- updates and deletions take the same clauses
  have hbuild : ∀ st : Statement, st.refused q.options = Statement.delete.refused q.options →
      ∃ e, e.IsRefusal ∧ st.build q.table.name q.options = .error e :=
    fun st hst => ⟨_, .clauses _ _, Statement.build_refused (hst.trans_ne hextra)⟩
  cases t with
  | fetch columns => contradiction
  | count => contradiction
  | update values => exact hbuild (.update values) rfl
  | updateColumn column value =>
    unfold compiled
    dsimp only
    split
    · exact hbuild (.update _) rfl
    · exact ⟨_, .argument _, rfl⟩
  | delete => exact hbuild .delete rfl

/-- A change that is not compiled does nothing, whatever the query and the world are. -/
theorem run_of_not_compiled {t : Terminal} (ht : t.changes = true) (h : t.compiled q = .error e)
    (w : World) : t.call.run.run.run (q, w) = (.error e, (q, w)) := by
  have hchange : ∀ {a : QueryAct Int} {r : Except Error BoundSql},
      a.run.run (q, w) = (change r).run.run (q, w) → r = .error e →
        (do let _ ← a : QueryAct Unit).run.run (q, w) = (.error e, (q, w)) := by
    rintro a r ha rfl
    have hrun : (change (.error e)).run.run (q, w) = (.error e, (q, w)) := rfl
    exact run_bind_of_error (ha.trans hrun) _
  cases t with
  | fetch columns => contradiction
  | count => contradiction
  | update values => exact hchange (run_update values _) h
  | updateColumn column value =>
    cases column with
    | text s => exact hchange (run_update _ _) h
    | _ =>
      cases h
      rfl
  | delete => exact hchange (run_delete _) h

end Terminal

/-! ### Queries that are reached -/

/-- A query on a database of its world. -/
def IsAttached (p : Query × World) : Prop :=
  ∃ d db, p.1.table.database = some d ∧ p.2.databases[d]? = some db

/-- The table of a query and the number of databases stay as they are. -/
abbrev SameTable : Query × World → Query × World → Prop :=
  Function.onFun Eq fun p => (p.1.table, p.2.databases.length)

abbrev SameDatabases : World → World → Prop := Function.onFun Eq fun w => w.databases.length

theorem IsAttached.of_sameTable (hp : IsAttached p) (h : SameTable p u) : IsAttached u := by
  obtain ⟨d, db, ht, hd⟩ := hp
  obtain ⟨htable, hlength⟩ := Prod.mk.inj h
  have hlt : d < u.2.databases.length := hlength ▸ (List.getElem?_eq_some_iff.mp hd).1
  exact ⟨d, _, htable ▸ ht, List.getElem?_eq_getElem hlt⟩

theorem sameTable_onWorld {a : Act α} (h : Keeps SameDatabases a p.2) :
    Keeps SameTable (onWorld a) p := Prod.ext rfl h

theorem sameDatabases_fetchAll (id : Nat) (model : Value) (t : Option Table) (w : World) :
    Keeps SameDatabases (Statement.fetchAll id model t) w := by
  refine .bind_reads (reads_statement id w) fun s _ => ?_
  refine .bind_reads (reads_ofFault _ w) fun rows _ => ?_
  have hadd : ∀ r ∈ rows, ∀ u, Keeps SameDatabases (World.addRow r) u := fun _ _ _ => rfl
  exact .mapM hadd w

theorem sameTable_execute (b : BoundSql) (p : Query × World) : Keeps SameTable (execute b) p := by
  refine .bind_reads rfl fun x _ => ?_
  split
  · exact .throw _ p
  · refine sameTable_onWorld (keeps_ask (Value.bound?_list _) ?_ fun s u => .pure s u)
    intro w id db s
    exact List.length_set.symm

/-- No call takes a query from its database. -/
theorem Call.sameTable (call : Call) (p : Query × World) : SameTable p (call.run.run.run p).2 :=
  have hsteps : Steps SameTable := {
    configure := fun _ _ => rfl
    setResults := fun _ _ => rfl
    execute := sameTable_execute
    fetchAll := fun s model t p => sameTable_onWorld (sameDatabases_fetchAll s model t p.2) }
  hsteps.call call p

theorem IsAttached.after (hp : IsAttached p) (calls : List Call) : IsAttached (after calls p) := by
  induction calls using List.reverseRecOn with
  | nil => exact hp
  | append_singleton calls call ih =>
    rw [after_concat]
    exact ih.of_sameTable (call.sameTable _)

/-- Whatever was called before and whatever the driver answers, a call that is refused has done
nothing, and one that fails by the database has sent the one statement it compiled and left the
query with its options, and with its rows unless it changes rows. A query with a grouping or with
conditions on groups changes no rows: the call is refused. -/
theorem failed_call (hp : IsAttached p) {calls : List Call} (h : after calls p = (q, w))
    (t : Terminal) :
    (∀ e q' w', t.call.run.run.run (q, w) = (.error e, q', w') →
      (e.IsRefusal → q' = q ∧ w' = w) ∧
      ∀ reason, e = .database reason → (∃ code text, reason = .driver code text) ∧
        ∃ b, t.compiled q = .ok b ∧ w'.connection.sent = w.connection.sent ++ [b] ∧
          q' = { q with results := if t.changes then none else q.results }) ∧
    (t.changes = true → q.options.grouping.isSome ∨ q.options.having.isSome →
      ∃ e, e.IsRefusal ∧ t.call.run.run.run (q, w) = (.error e, q, w)) := by
  obtain ⟨d, db, hq, hd⟩ : IsAttached (q, w) := h ▸ hp.after calls
  refine ⟨fun e q' w' hrun => ?_, fun ht hg => ?_⟩
  · rcases Terminal.run_eq_error hq hd hrun with ⟨hc, hu⟩ | ⟨b, hc, hleft, hsent, he⟩
    · refine ⟨fun _ => Prod.mk.inj hu, ?_⟩
      rintro reason rfl
      rcases t.fails_compiled q _ hc with he | ⟨f, he⟩ <;> cases he
    · refine ⟨fun hr => ?_, ?_⟩
      · rcases he with ⟨code, text, rfl⟩ | ⟨f, rfl⟩ <;> cases hr
      · rintro reason rfl
        rcases he with ⟨code, text, he⟩ | ⟨f, he⟩ <;> cases he
        exact ⟨⟨code, text, rfl⟩, b, hc, hsent, hleft⟩
  · obtain ⟨e, he, hc⟩ := Terminal.compiled_of_grouped ht hg
    exact ⟨e, he, Terminal.run_of_not_compiled ht hc w⟩

/-- Users of a database whose server goes away after a selection. -/
def interrupted : Query × World where
  fst := { table := { id := 0, name := "users", database := some 0 } }
  snd := {
    connection := { queue := [.result ["id"] [[.int 1]] 1 .null, .failure 2006 "gone"] }
    databases := [{ name := "shop" }]
    nextTable := 1 }

theorem interrupted_isAttached : IsAttached interrupted := ⟨0, _, rfl, rfl⟩

/-- The rows kept are forgotten with a deletion that fails, and kept with one that is refused. -/
theorem interrupted_delete : IsAttached interrupted ∧
    (∃ q w q' w', after [.fetch .null] interrupted = (q, w) ∧ q.results = some [0] ∧
      Terminal.delete.call.run.run.run (q, w) =
        (.error (.database (.driver 2006 "gone")), q', w') ∧
      q' = { q with results := none } ∧
      ∃ b, Terminal.delete.compiled q = .ok b ∧
        w'.connection.sent = w.connection.sent ++ [b]) ∧
    ∃ q w e, after [.fetch .null, .configure (.groupBy (.text "city") .null)] interrupted = (q, w) ∧
      q.options.grouping.isSome ∧ e.IsRefusal ∧ q.results = some [0] ∧
      Terminal.delete.call.run.run.run (q, w) = (.error e, q, w) := by
  refine ⟨interrupted_isAttached, ?_, ?_⟩
  · obtain ⟨q, w, q', w', h, hr, hrun⟩ : ∃ q w q' w', after [.fetch .null] interrupted = (q, w) ∧
        q.results = some [0] ∧ Terminal.delete.call.run.run.run (q, w) =
          (.error (.database (.driver 2006 "gone")), q', w') := ⟨_, _, _, _, rfl, rfl, rfl⟩
    obtain ⟨-, b, hb, hsent, hleft⟩ :=
      ((failed_call interrupted_isAttached h .delete).1 _ q' w' hrun).2 _ rfl
    exact ⟨q, w, q', w', h, hr, hrun, hleft, b, hb, hsent⟩
  · obtain ⟨q, w, h, hr, hg⟩ : ∃ q w,
        after [.fetch .null, .configure (.groupBy (.text "city") .null)] interrupted = (q, w) ∧
          q.results = some [0] ∧ q.options.grouping.isSome := ⟨_, _, rfl, rfl, rfl⟩
    obtain ⟨e, he, hrun⟩ := (failed_call interrupted_isAttached h .delete).2 rfl (.inl hg)
    exact ⟨q, w, e, h, hg, he, hr, hrun⟩

end Query

end RowQuery

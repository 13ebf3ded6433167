import RowQuery.Proofs.Running
import RowQuery.Row.Record

/-! What acts leave behind. Statements go to the driver one after another, and each is answered by
the next outcome of the queue. Of every act that sends something the lemmas here say what it may
send; all of them only add rows to the world, and a primary key that was discovered stays known. -/

namespace RowQuery

open Running

/-- A statement and what the driver answered to it. -/
structure Exchange where
  statement : BoundSql
  outcome : Outcome

namespace Connection

/-- The statements sent between two states of a connection, with their answers. Cursors are left
aside. -/
inductive Exchanges : Connection → List Exchange → Connection → Prop
  | none {c d : Connection} (sent : d.sent = c.sent) (queue : d.queue = c.queue) :
    Exchanges c [] d
  | next {c d : Connection} {b : BoundSql} {xs : List Exchange}
    (rest : Exchanges (c.send b).2 xs d) : Exchanges c (⟨b, (c.send b).1⟩ :: xs) d

namespace Exchanges

variable {c d e : Connection} {xs ys : List Exchange}

theorem refl (c : Connection) : Exchanges c [] c := .none rfl rfl

/-- Only what was sent and what is queued matters. -/
theorem of_agree (h : Exchanges c xs d) (sent : c.sent = e.sent) (queue : c.queue = e.queue) :
    Exchanges e xs d := by
  induction h generalizing e with
  | none hs hq => exact .none (hs.trans sent) (hq.trans queue)
  | @next c d b xs rest ih =>
    have ho : (c.send b).1 = (e.send b).1 := by simp only [send, queue]
    have hs : (c.send b).2.sent = (e.send b).2.sent := by simp only [send, sent]
    have hq : (c.send b).2.queue = (e.send b).2.queue := by simp only [send, queue]
    rw [ho]
    exact .next (ih hs hq)

theorem append (h : Exchanges c xs d) (hd : Exchanges d ys e) : Exchanges c (xs ++ ys) e := by
  induction h with
  | none hs hq => exact hd.of_agree hs hq
  | next rest ih => exact .next (ih hd)

/-- What was sent is sent in the order of the exchanges. -/
theorem sent_eq (h : Exchanges c xs d) : d.sent = c.sent ++ xs.map (·.statement) := by
  induction h with
  | none hs hq => rw [hs, List.map_nil, List.append_nil]
  | @next c d b xs rest ih =>
    rw [ih, List.map_cons]
    simp only [send, List.append_assoc, List.singleton_append]

end Exchanges

/-- Statements with what the driver would answer to each. -/
def answers : Connection → List BoundSql → List Exchange
  | _, [] => []
  | c, b :: bs => ⟨b, (c.send b).1⟩ :: (c.send b).2.answers bs

/-- What was sent decides about the exchanges. -/
theorem Exchanges.eq_answers {c d : Connection} {xs : List Exchange} (h : Exchanges c xs d) :
    xs = c.answers (d.sent.drop c.sent.length) := by
  rw [h.sent_eq, List.drop_left]
  induction h with
  | none hs hq => rfl
  | @next c d b xs rest ih =>
    rw [List.map_cons, answers]
    exact congrArg _ ih

/-- Each statement that was sent between two states of a connection had a cursor of its own, and
`unused` cursors had no statement. All of them were opened and closed. -/
structure Cursors (unused : Nat) (c d : Connection) : Prop where
  opened : d.opened + c.sent.length = c.opened + d.sent.length + unused
  closed : d.closed + c.sent.length = c.closed + d.sent.length + unused

namespace Cursors

variable {c d e : Connection} {m n : Nat}

theorem refl (c : Connection) : Cursors 0 c c := ⟨rfl, rfl⟩

theorem trans (h : Cursors m c d) (hd : Cursors n d e) : Cursors (m + n) c e where
  opened := by have := h.opened; have := hd.opened; omega
  closed := by have := h.closed; have := hd.closed; omega

/-- A cursor that is closed without a statement. -/
theorem unused (c : Connection) : Cursors 1 c c.openCursor.closeCursor := by
  constructor <;> simp [openCursor, closeCursor] <;> omega

/-- A statement is sent on a cursor of its own. -/
theorem send (c : Connection) (b : BoundSql) :
    Cursors 0 c (c.openCursor.send b).2.closeCursor := by
  constructor <;> simp [Connection.send, openCursor, closeCursor] <;> omega

end Cursors

end Connection

namespace World

/-- What acts leave behind: exchanges that all satisfy `Q`, each on a cursor of its own, rows that
were only added, and keys that stay known. -/
structure Reaches (Q : Exchange → Prop) (w w' : World) : Prop where
  exchanges : ∃ xs, w.connection.Exchanges xs w'.connection ∧ ∀ x ∈ xs, Q x
  cursors : w.connection.Cursors 0 w'.connection
  rows : w.rows <+: w'.rows
  keys : ∀ t key, Keyed.find? w.primaryKeys t = some key →
    Keyed.find? w'.primaryKeys t = some key

namespace Reaches

variable {Q : Exchange → Prop} {w w' : World}

/-- Changes of other parts of the world leave nothing behind. -/
theorem of_eq (hc : w'.connection = w.connection) (hr : w'.rows = w.rows)
    (hk : w'.primaryKeys = w.primaryKeys) : Reaches Q w w' where
  exchanges := by
    rw [hc]
    exact ⟨[], .refl _, fun _ hx => absurd hx List.not_mem_nil⟩
  cursors := by
    rw [hc]
    exact .refl _
  rows := ⟨[], by rw [hr, List.append_nil]⟩
  keys := by
    rw [hk]
    exact fun _ _ h => h

instance : Std.Refl (Reaches Q) := ⟨fun _ => of_eq rfl rfl rfl⟩

instance : IsTrans World (Reaches Q) where
  trans := by
    rintro u v w ⟨⟨xs, hxs, hx⟩, huc, hur, huk⟩ ⟨⟨ys, hys, hy⟩, hvc, hvr, hvk⟩
    refine ⟨⟨xs ++ ys, hxs.append hys, fun z hz => ?_⟩, huc.trans hvc, hur.trans hvr,
      fun t key h => hvk t key (huk t key h)⟩
    rcases List.mem_append.mp hz with hz | hz
    · exact hx z hz
    · exact hy z hz

theorem mono {P : Exchange → Prop} (h : Reaches Q w w') (hQP : ∀ x, Q x → P x) :
    Reaches P w w' where
  exchanges := by
    obtain ⟨xs, hxs, hx⟩ := h.exchanges
    exact ⟨xs, hxs, fun x hmem => hQP x (hx x hmem)⟩
  cursors := h.cursors
  rows := h.rows
  keys := h.keys

/-- Nothing was sent when no exchange could be. -/
theorem sent_eq (h : Reaches (fun _ => False) w w') :
    w'.connection.sent = w.connection.sent := by
  obtain ⟨xs, hxs, hnone⟩ := h.exchanges
  cases xs with
  | nil =>
    rw [hxs.sent_eq]
    exact List.append_nil _
  | cons x xs => exact (hnone x List.mem_cons_self).elim

/-- A row stays what it is. -/
theorem row_eq (h : Reaches Q w w') {id : Nat} {r : Row} (hr : w.rows[id]? = some r) :
    w'.rows[id]? = some r := by
  obtain ⟨added, ha⟩ := h.rows
  rw [← ha, List.getElem?_append_left (List.getElem?_eq_some_iff.mp hr).1, hr]

end Reaches

/-- All exchanges between two worlds satisfy `Q`, whatever else changes. -/
def Sends (Q : Exchange → Prop) (w w' : World) : Prop :=
  ∃ xs, w.connection.Exchanges xs w'.connection ∧ ∀ x ∈ xs, Q x

variable {Q : Exchange → Prop} {w w' : World}

theorem Reaches.sends (h : Reaches Q w w') : Sends Q w w' := h.exchanges

instance : Std.Refl (Sends Q) :=
  ⟨fun w => ⟨[], .refl w.connection, fun _ hx => absurd hx List.not_mem_nil⟩⟩

instance : IsTrans World (Sends Q) where
  trans := by
    rintro u v w ⟨xs, hxs, hx⟩ ⟨ys, hys, hy⟩
    refine ⟨xs ++ ys, hxs.append hys, fun z hz => ?_⟩
    rcases List.mem_append.mp hz with hz | hz
    · exact hx z hz
    · exact hy z hz

end World

/-! ### Looking things up -/

section Lookup

variable {w u : World}

theorem reads_ofExcept {α : Type} (r : Except Error α) (w : World) : Reads (Act.ofExcept r) w := rfl

theorem reads_ofFault {α : Type} (r : Except Fault α) (w : World) : Reads (Act.ofFault r) w := rfl

theorem run_ofExcept {α : Type} (r : Except Error α) (w : World) :
    (Act.ofExcept r).run.run w = (r, w) := rfl

theorem run_ofFault {α : Type} (r : Except Fault α) (w : World) :
    (Act.ofFault r).run.run w = (r.mapError .fault, w) := rfl

theorem run_row (id : Nat) (w : World) : (World.row id).run.run w = match w.rows[id]? with
    | some r => (.ok r, w)
    | none => (.error (.fault .index), w) := by
  change (match w.rows[id]? with
    | some r => pure r
    | none => Act.fail .index : Act Row).run.run w = _
  cases w.rows[id]? <;> rfl

theorem run_database (id : Nat) (w : World) :
    (World.database id).run.run w = match w.databases[id]? with
      | some d => (.ok d, w)
      | none => (.error (.fault .index), w) := by
  change (match w.databases[id]? with
    | some d => pure d
    | none => Act.fail .index : Act Database).run.run w = _
  cases w.databases[id]? <;> rfl

theorem run_statement (id : Nat) (w : World) :
    (Statement.get id).run.run w = match w.statements[id]? with
      | some s => (.ok s, w)
      | none => (.error (.fault .index), w) := by
  change (match w.statements[id]? with
    | some s => pure s
    | none => Act.fail .index : Act Prepared).run.run w = _
  cases w.statements[id]? <;> rfl

theorem reads_row (id : Nat) (w : World) : Reads (World.row id) w := by
  rw [Reads, run_row]
  split <;> rfl

theorem reads_database (id : Nat) (w : World) : Reads (World.database id) w := by
  rw [Reads, run_database]
  split <;> rfl

theorem reads_statement (id : Nat) (w : World) : Reads (Statement.get id) w := by
  rw [Reads, run_statement]
  split <;> rfl

theorem run_row_eq_ok {id : Nat} {r : Row} :
    (World.row id).run.run w = (.ok r, u) ↔ w.rows[id]? = some r ∧ u = w := by
  rw [run_row]
  constructor
  · intro h
    split at h
    · rename_i s hs
      obtain ⟨hr, rfl⟩ := Prod.mk.inj h
      exact ⟨hs.trans (congrArg some (Except.ok.inj hr)), rfl⟩
    · cases h
  · rintro ⟨h, rfl⟩
    rw [h]

theorem run_databaseId (t : Table) (w : World) : t.databaseId.run.run w = match t.database with
    | some id => (.ok id, w)
    | none => (.error (.fault .attribute), w) := by
  unfold Table.databaseId
  cases t.database <;> rfl

theorem reads_databaseId (t : Table) (w : World) : Reads t.databaseId w := by
  rw [Reads, run_databaseId]
  split <;> rfl

theorem reads_model (t : Table) (w : World) : Reads t.model w := by
  refine .bind (reads_databaseId t w) fun id _ => ?_
  exact .bind (reads_database id w) fun d _ => .pure _ w

end Lookup

/-! ### Statements -/

/-- The values that the arguments of an execution stand for; arguments that count as missing stand
for none. -/
def Value.bound? (arguments : Value) : Option (List Value) :=
  if arguments.isTruthy then arguments.spread? else some []

theorem Value.bound?_list (vs : List Value) : (Value.list vs).bound? = some vs := by
  cases vs <;> rfl

namespace World

/-- The world after a new statement of a database was sent. -/
def asked (w : World) (id : Nat) (d : Database) (b : BoundSql) (s : Prepared) : World :=
  { w with
    connection := (w.connection.openCursor.send b).2.closeCursor
    databases := w.databases.set id { d with last := some w.statements.length }
    statements := w.statements ++ [s] }

/-- A statement that is sent leads to a related world, whatever it is answered. -/
def Admits (R : World → World → Prop) (b : BoundSql) : Prop :=
  ∀ w id d s, R w (World.asked w id d b s)

theorem Reaches.admits {Q : Exchange → Prop} {b : BoundSql} (hq : ∀ o, Q ⟨b, o⟩) :
    Admits (Reaches Q) b := by
  intro w id d s
  refine ⟨⟨[⟨b, (w.connection.send b).1⟩], .next (.none rfl rfl), fun x hx => ?_⟩, .send _ b,
    List.prefix_rfl, fun _ _ h => h⟩
  obtain rfl := List.mem_singleton.mp hx
  exact hq _

end World

namespace Statement

variable {α : Type} {w : World} {id : Nat} {d : Database} {sql : String} {arguments : Value}
  {args : List Value}

theorem run_prepare (hd : w.databases[id]? = some d) :
    (prepare id sql).run.run w = (.ok w.statements.length, { w with
      databases := w.databases.set id { d with last := some w.statements.length }
      statements := w.statements ++ [{ sql := sql }] }) := by
  have h : (World.database id).run.run w = (.ok d, w) := by rw [run_database, hd]
  rw [prepare, run_bind_of_ok h]
  rfl

theorem run_prepare_none (hd : w.databases[id]? = none) :
    (prepare id sql).run.run w = (.error (.fault .index), w) := by
  have h : (World.database id).run.run w = (.error (.fault .index), w) := by rw [run_database, hd]
  exact run_bind_of_error h _

theorem run_run {s : Prepared} (hs : w.statements[id]? = some s)
    (ha : arguments.bound? = some args) :
    (run id arguments).run.run w = match w.connection.queue.headD .empty with
      | .failure code text columns => (.error (.database (.driver code text)), { w with
          connection := (w.connection.send ⟨s.sql, args⟩).2
          statements := w.statements.set id (s.interrupt columns) })
      | .result columns rows rowCount lastRowId => (.ok (), { w with
          connection := (w.connection.send ⟨s.sql, args⟩).2
          statements := w.statements.set id (s.receive columns rows rowCount lastRowId) }) := by
  have h : (Statement.get id).run.run w = (.ok s, w) := by rw [run_statement, hs]
  have hp : (pure args : Act (List Value)).run.run w = (.ok args, w) := rfl
  have hw : (MonadState.get : Act World).run.run w = (.ok w, w) := rfl
  unfold Value.bound? at ha
  rw [run, run_bind_of_ok h]
  simp only [ha]
  rw [run_bind_of_ok hp, run_bind_of_ok hw]
  simp only [Connection.send]
  cases w.connection.queue.headD .empty <;> rfl

/-- Arguments that cannot be spread are refused before anything is sent. -/
theorem run_run_refused {s : Prepared} (hs : w.statements[id]? = some s)
    (ha : arguments.bound? = none) :
    (run id arguments).run.run w = (.error (.fault .type), w) := by
  have h : (Statement.get id).run.run w = (.ok s, w) := by rw [run_statement, hs]
  unfold Value.bound? at ha
  rw [run, run_bind_of_ok h]
  simp only [ha]
  rfl

/-- A statement is run on a cursor that is open before and closed afterwards. -/
theorem run_execute (id : Nat) (arguments : Value) (w : World) :
    (execute id arguments).run.run w =
      (((run id arguments).run.run { w with connection := w.connection.openCursor }).1,
        { ((run id arguments).run.run { w with connection := w.connection.openCursor }).2 with
          connection := ((run id arguments).run.run
            { w with connection := w.connection.openCursor }).2.connection.closeCursor }) := rfl

/-- A statement that is prepared and executed is sent on a cursor of its own, and what follows goes
on with its result. -/
theorem run_ask (sql : String) (f : Nat → Act α) (hd : w.databases[id]? = some d)
    (ha : arguments.bound? = some args) :
    (do let s ← prepare id sql; execute s arguments; f s).run.run w =
      match w.connection.queue.headD .empty with
      | .failure code text columns => (.error (.database (.driver code text)),
          w.asked id d ⟨sql, args⟩ (({ sql } : Prepared).interrupt columns))
      | .result columns rows rowCount lastRowId => (f w.statements.length).run.run
          (w.asked id d ⟨sql, args⟩
            (({ sql } : Prepared).receive columns rows rowCount lastRowId)) := by
  rw [run_bind_of_ok (run_prepare hd), run_bind]
  have hs : (w.statements ++ [({ sql } : Prepared)])[w.statements.length]? = some { sql } := by
    simp
  rw [run_execute, run_run hs ha]
  simp only [Connection.openCursor]
  cases w.connection.queue.headD .empty with
  | _ =>
    simp only [List.set_append_right, Nat.le_refl, Nat.sub_self, List.set_cons_zero]
    rfl

/-- A statement that is prepared, but executed with arguments that cannot be spread, is not sent. -/
theorem run_ask_refused (sql : String) (f : Nat → Act α) (hd : w.databases[id]? = some d)
    (ha : arguments.bound? = none) :
    (do let s ← prepare id sql; execute s arguments; f s).run.run w =
      (.error (.fault .type), { w with
        connection := w.connection.openCursor.closeCursor
        databases := w.databases.set id { d with last := some w.statements.length }
        statements := w.statements ++ [{ sql := sql }] }) := by
  have hs : (w.statements ++ [({ sql } : Prepared)])[w.statements.length]? = some { sql } := by
    simp
  rw [run_bind_of_ok (run_prepare hd), run_bind, run_execute, run_run_refused hs ha]

end Statement

/-! ### Acts on a database -/

section Database

variable {α : Type} {Q : Exchange → Prop} {w : World}

theorem keeps_modify {f : World → World} (h : World.Reaches Q w (f w)) :
    Keeps (World.Reaches Q) (modify f : Act Unit) w := h

/-- What is prepared and executed sends one statement at most. -/
theorem keeps_ask {R : World → World → Prop} [Std.Refl R] [IsTrans World R] {id : Nat}
    {sql : String} {arguments : Value} {args : List Value} {f : Nat → Act α}
    (ha : arguments.bound? = some args) (hs : World.Admits R ⟨sql, args⟩)
    (hf : ∀ n u, Keeps R (f n) u) :
    Keeps R (do let s ← Statement.prepare id sql; Statement.execute s arguments; f s) w := by
  cases hd : w.databases[id]? with
  | none =>
    rw [Keeps, run_bind_of_error (Statement.run_prepare_none hd)]
    exact Std.Refl.refl w
  | some d =>
    rw [Keeps, Statement.run_ask sql f hd ha]
    split
    · exact hs w id d _
    · exact trans_of R (hs w id d _) (hf _ _)

theorem keeps_addRow (r : Row) (w : World) : Keeps (World.Reaches Q) (World.addRow r) w where
  exchanges := ⟨[], .refl _, fun _ hx => absurd hx List.not_mem_nil⟩
  cursors := .refl _
  rows := List.prefix_append w.rows [r]
  keys := fun _ _ h => h

theorem keeps_fetchAll (id : Nat) (model : Value) (t : Option Table) (w : World) :
    Keeps (World.Reaches Q) (Statement.fetchAll id model t) w := by
  refine .bind_reads (reads_statement id w) fun s _ => ?_
  refine .bind_reads (reads_ofFault _ w) fun rows _ => ?_
  exact .mapM (fun r _ u => keeps_addRow r u) w

theorem World.run_addRows (rows : List Row) (w : World) : (rows.mapM World.addRow).run.run w =
    (.ok (List.range' w.rows.length rows.length), { w with rows := w.rows ++ rows }) := by
  induction rows generalizing w with
  | nil => simp [List.mapM_nil]; rfl
  | cons r rows ih =>
    have hadd : (World.addRow r).run.run w = (.ok w.rows.length, { w with rows := w.rows ++ [r] }) :=
      rfl
    rw [List.mapM_cons, run_bind_of_ok hadd, run_bind_of_ok (ih _)]
    simp only [List.append_assoc, List.singleton_append, List.length_append, List.length_cons,
      List.range'_succ]
    rfl

/-- The rows of a statement are read into a model all together or not at all. -/
theorem Statement.run_fetchAll {n : Nat} {s : Prepared} (hs : w.statements[n]? = some s)
    (model : Model) (t : Option Table) : (Statement.fetchAll n (.model model) t).run.run w =
      match s.readRows model t with
      | .ok rows => (.ok (List.range' w.rows.length rows.length), { w with rows := w.rows ++ rows })
      | .error f => (.error (.fault f), w) := by
  have hstatement : (Statement.get n).run.run w = (.ok s, w) := by rw [run_statement, hs]
  have hread : (Act.ofFault (s.readRowsAs (.model model) t)).run.run w =
      ((s.readRows model t).mapError .fault, w) := run_ofFault _ w
  rw [Statement.fetchAll, run_bind_of_ok hstatement, run_bind, hread]
  cases s.readRows model t with
  | error f => rfl
  | ok rows => exact World.run_addRows rows w

theorem keeps_addTable (name : Value) (database : Option Nat) (w : World) :
    Keeps (World.Reaches Q) (World.addTable name database) w := by
  unfold World.addTable
  split
  · split_ifs
    · exact .throw _ w
    · exact .of_eq rfl rfl rfl
  · exact .throw _ w

theorem keeps_table (id : Nat) (name : Value) (w : World) :
    Keeps (World.Reaches Q) (Database.table id name) w := by
  have hnew : Keeps (World.Reaches Q) (do
      let t ← World.addTable name (some id)
      let d ← World.database id
      World.setDatabase id { d with tables := Keyed.put d.tables t.name t.id }
      return t) w := by
    refine .bind (keeps_addTable name (some id) w) fun t u _ => ?_
    refine .bind_reads (reads_database id u) fun d _ => ?_
    exact .bind (keeps_modify (.of_eq rfl rfl rfl)) fun _ u _ => .pure t u
  unfold Database.table
  dsimp only
  split_ifs
  · exact .throw _ w
  · refine .bind_reads (reads_database id w) fun d _ => ?_
    split
    · exact .pure _ w
    · exact hnew

theorem keeps_sourceOf (id : Nat) (sql : String) (w : World) :
    Keeps (World.Reaches Q) (Database.sourceOf id sql) w := by
  refine .bind_reads (reads_database id w) fun d _ => ?_
  split
  · exact .pure _ w
  · split
    · exact .pure _ w
    · exact .bind (keeps_table id _ w) fun t u _ => .pure _ u

/-- Running SQL sends this one statement at most. -/
theorem keeps_query {id : Nat} {sql : String} {arguments model : Value} {args : List Value}
    (ha : arguments.bound? = some args) (hq : ∀ o, Q ⟨⟨sql, args⟩, o⟩) :
    Keeps (World.Reaches Q) (Database.query id sql arguments model) w := by
  refine keeps_ask ha (.admits hq) fun s u => ?_
  dsimp only
  split_ifs
  · split
    · refine .bind (keeps_sourceOf id sql u) fun source v _ => ?_
      exact .bind (keeps_fetchAll s _ _ v) fun ids v _ => .pure _ v
    · exact .bind (keeps_fetchAll s _ _ u) fun ids v _ => .pure _ v
  · exact .bind_reads (reads_statement s u) fun r _ => .pure _ u
  · exact .bind (keeps_fetchAll s _ _ u) fun ids v _ => .pure _ v

/-- Asking for the number of the last insertion sends this question at most. -/
theorem keeps_lastInsertId {id : Nat} (hq : ∀ o, Q ⟨⟨Database.lastInsertSql, []⟩, o⟩) :
    Keeps (World.Reaches Q) (Database.lastInsertId id) w := by
  refine .bind_reads (reads_database id w) fun d _ => ?_
  dsimp only
  split
  on_goal 1 => refine .bind_reads (reads_statement _ w) fun s _ => ?_
  -- what the connection remembers, or nothing: the question is asked in the same way
  all_goals
    refine .bind_reads (.pure _ w) fun known _ => ?_
    split_ifs
    · exact .of_reads (reads_ofExcept _ w)
    · refine .bind (keeps_query rfl hq) fun answer u _ => ?_
      split
      · refine .bind_reads (reads_row _ u) fun row _ => ?_
        split_ifs
        · refine .bind_reads (reads_ofFault _ u) fun v _ => ?_
          split_ifs
          · exact .of_reads (reads_ofExcept _ u)
          · exact .pure 0 u
        · exact .throw _ u
      · exact .throw _ u

theorem keeps_readPrimaryKey {R : World → World → Prop} [Std.Refl R] [IsTrans World R] (t : Table)
    (hs : World.Admits R ⟨Table.primaryKeySql, [.text t.name]⟩) :
    Keeps R t.readPrimaryKey w := by
  refine .bind (.tryCatch ?_ fun e u _ => .throw _ u) fun rows u _ => .of_reads (reads_ofFault _ u)
  refine .bind_reads (reads_databaseId t w) fun id _ => ?_
  refine keeps_ask (Value.bound?_list _) hs fun s u => ?_
  exact .bind_reads (reads_statement s u) fun s _ => .of_reads (reads_ofFault _ u)

theorem run_primaryKey (t : Table) (w : World) :
    t.primaryKey.run.run w = match Keyed.find? w.primaryKeys t.id with
      | some key => (.ok key, w)
      | none => match t.readPrimaryKey.run.run w with
        | (.ok key, u) => (.ok key, { u with primaryKeys := Keyed.put u.primaryKeys t.id key })
        | (.error e, u) => (.error e, u) := by
  have hw : (get : Act World).run.run w = (.ok w, w) := rfl
  rw [Table.primaryKey, run_bind_of_ok hw]
  cases Keyed.find? w.primaryKeys t.id with
  | some key => rfl
  | none =>
    rw [run_bind]
    rcases t.readPrimaryKey.run.run w with ⟨e | key, u⟩ <;> rfl

/-- Asking for a primary key sends the one question for it at most. -/
theorem keeps_primaryKey (t : Table) (hq : ∀ o, Q ⟨⟨Table.primaryKeySql, [.text t.name]⟩, o⟩) :
    Keeps (World.Reaches Q) t.primaryKey w := by
  have hread : Keeps (World.Reaches Q) t.readPrimaryKey w :=
    keeps_readPrimaryKey t (.admits hq)
  have hkeys : Keeps (Function.onFun Eq World.primaryKeys) t.readPrimaryKey w :=
    keeps_readPrimaryKey t fun _ _ _ _ => rfl
  unfold Keeps at *
  rw [run_primaryKey]
  split
  · exact Std.Refl.refl w
  · rename_i hnone
    rcases h : t.readPrimaryKey.run.run w with ⟨e | key, u⟩ <;> rw [h] at hread hkeys
    · exact hread
    · refine ⟨hread.exchanges, hread.cursors, hread.rows, fun n k hk => ?_⟩
      have hu : w.primaryKeys = u.primaryKeys := hkeys
      rw [Keyed.find?_put, ← hu]
      split_ifs with hn
      · rw [← beq_iff_eq.mp hn, hnone] at hk
        contradiction
      · exact hk

/-- A primary key that was read is known. -/
theorem primaryKey_known {t : Table} {key : List Value} {u : World}
    (h : t.primaryKey.run.run w = (.ok key, u)) :
    Keyed.find? u.primaryKeys t.id = some key := by
  rw [run_primaryKey] at h
  split at h
  · rename_i hk
    obtain ⟨hx, rfl⟩ := Prod.mk.inj h
    rw [hk, Except.ok.inj hx]
  · split at h
    · obtain ⟨hx, rfl⟩ := Prod.mk.inj h
      rw [Keyed.find?_put, if_pos BEq.rfl, Except.ok.inj hx]
    · cases h

end Database

/-! ### Acts on a query -/

section Queries

variable {α : Type} {R : World → World → Prop} {q : Query} {w : World}

theorem run_onWorld (a : Act α) (p : Query × World) :
    (Query.onWorld a).run.run p = ((a.run.run p.2).1, p.1, (a.run.run p.2).2) := rfl

/-- A query on a database sends the statement it executes. -/
theorem run_execute (b : BoundSql) {d : Nat} {db : Database} (hq : q.table.database = some d)
    (hd : w.databases[d]? = some db) : (Query.execute b).run.run (q, w) =
      match w.connection.queue.headD .empty with
      | .failure code text columns => (.error (.database (.driver code text)),
          (q, w.asked d db b (({ sql := b.sql } : Prepared).interrupt columns)))
      | .result columns rows rowCount lastRowId => (.ok w.statements.length,
          (q, w.asked d db b
            (({ sql := b.sql } : Prepared).receive columns rows rowCount lastRowId))) := by
  have hget : (get : QueryAct (Query × World)).run.run (q, w) = (.ok (q, w), (q, w)) := rfl
  rw [Query.execute, run_bind_of_ok hget]
  simp only [hq]
  rw [run_onWorld, Statement.run_ask b.sql (fun s => pure s) hd (Value.bound?_list b.args)]
  split <;> rfl

theorem run_update (values : Value) (p : Query × World) : (Query.update values).run.run p =
    (Query.change (Sql.update p.1.table.name p.1.options values)).run.run p := by
  have hget : (get : QueryAct (Query × World)).run.run p = (.ok p, p) := rfl
  rw [Query.update, run_bind_of_ok hget]

theorem run_delete (p : Query × World) : Query.delete.run.run p =
    (Query.change (Sql.delete p.1.table.name p.1.options)).run.run p := by
  have hget : (get : QueryAct (Query × World)).run.run p = (.ok p, p) := rfl
  rw [Query.delete, run_bind_of_ok hget]

theorem keeps_onWorld {a : Act α} {p : Query × World} (h : Keeps R a p.2) :
    Keeps (Function.onFun R Prod.snd) (Query.onWorld a) p := h

theorem reads_onWorld {a : Act α} {p : Query × World} (h : Reads a p.2) :
    Reads (Query.onWorld a) p := by
  rw [Reads, run_onWorld]
  exact Prod.ext rfl h

theorem keeps_runQuery {a : QueryAct α} (h : Keeps (Function.onFun R Prod.snd) a (q, w)) :
    Keeps R (Record.runQuery q a) w := h

variable [Std.Refl R] [IsTrans World R]

/-- A query sends the statement it executes. -/
theorem keeps_execute {b : BoundSql} (hs : World.Admits R b) (p : Query × World) :
    Keeps (Function.onFun R Prod.snd) (Query.execute b) p := by
  refine .bind_reads rfl fun x hx => ?_
  split
  · exact .throw _ p
  · exact keeps_onWorld (keeps_ask (Value.bound?_list _) hs fun s u => .pure s u)

/-- A change sends the statement it is given, if that could be built. -/
theorem keeps_change {r : Except Error BoundSql} (hs : ∀ b, r = .ok b → World.Admits R b)
    (p : Query × World) : Keeps (Function.onFun R Prod.snd) (Query.change r) p := by
  refine .bind_reads rfl fun b hb => ?_
  obtain ⟨hr, -⟩ := Prod.mk.inj hb
  refine .bind (Std.Refl.refl p.2) fun _ u _ => ?_
  refine .bind (keeps_execute (hs b hr) u) fun s v _ => ?_
  exact .bind_reads (reads_onWorld (reads_statement s v.2)) fun r _ => .pure _ v

/-- Fetching sends the query's selection, if that can be built. -/
theorem keeps_fetch {Q : Exchange → Prop} {columns : Value} {p : Query × World}
    (hq : ∀ b o, Sql.select p.1.table.name p.1.options columns = .ok b → Q ⟨b, o⟩) :
    Keeps (Function.onFun (World.Reaches Q) Prod.snd) (Query.fetch columns) p := by
  have hset : ∀ (ids : List Nat) (u : Query × World),
      Keeps (Function.onFun (World.Reaches Q) Prod.snd)
        (do Query.setResults (some ids); return ids) u :=
    fun ids u => .bind (Std.Refl.refl u.2) fun _ v _ => .pure ids v
  refine .bind_reads rfl fun x hx => ?_
  obtain ⟨hx, -⟩ := Prod.mk.inj hx
  obtain rfl := Except.ok.inj hx
  refine .bind_reads rfl fun b hb => ?_
  obtain ⟨hb, -⟩ := Prod.mk.inj hb
  refine .bind (keeps_execute (.admits fun o => hq b o hb) p) fun s u _ => ?_
  split
  · refine .bind (keeps_onWorld (.bind_reads (reads_model _ u.2) fun m _ => ?_))
      fun ids v _ => hset ids v
    exact keeps_fetchAll s _ _ u.2
  · exact .bind (keeps_onWorld (keeps_fetchAll s _ _ u.2)) fun ids v _ => hset ids v

end Queries

end RowQuery

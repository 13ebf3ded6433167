import RowQuery.Proofs.Exchange
import RowQuery.Proofs.Alignment

/-! When a record is inserted. Saving a new record asks for its key, inserts it, and asks for the
number the database gave it, before the record counts as known. A record that is known is only
updated and deleted from then on, so what matters is that the call that inserted it came to its
end. -/

namespace RowQuery

open Running

/-- The number of rows that the driver reports to have written, zero for a failure. -/
def Outcome.rowsWritten : Outcome → Int
  | .failure _ _ _ => 0
  | .result _ _ rowCount _ => rowCount

/-! ### First letters of statements -/

theorem head_ofList (c : Char) (cs : List Char) :
    (String.ofList (c :: cs)).toList.head? = some c := by
  rw [String.toList_ofList]
  rfl

theorem head_append {s : String} {c : Char} (h : s.toList.head? = some c) (u : String) :
    (s ++ u).toList.head? = some c := by
  rw [String.toList_append, List.head?_append, h]
  rfl

theorem head_of_begins {s u : String} {c : Char} (h : s.toList <+: u.toList)
    (hs : s.toList.head? = some c) : u.toList.head? = some c := by
  obtain ⟨rest, hrest⟩ := h
  rw [← hrest, List.head?_append, hs]
  rfl

theorem Table.primaryKeySql_head : primaryKeySql.toList.head? = some 'S' :=
  head_append (head_append (head_ofList 'S' _) _) _

theorem Database.lastInsertSql_head : lastInsertSql.toList.head? = some 'S' := head_ofList 'S' _

namespace Sql

variable {table : String} {options : Options} {values : Value} {b : BoundSql}

theorem insert_letter (h : insert table values = .ok b) : b.sql.toList.head? = some 'I' := by
  obtain ⟨text, args, -, rfl⟩ := insert_eq_ok.mp h
  exact head_append (head_append (head_append (head_ofList 'I' _) _) _) _

theorem update_letter (h : update table options values = .ok b) :
    b.sql.toList.head? = some 'U' := by
  obtain ⟨clauses, text, args, -, -, rfl⟩ := update_eq_ok.mp h
  exact head_append (head_append (head_append (head_append (head_ofList 'U' _) _) _) _) _

theorem delete_letter (h : delete table options = .ok b) : b.sql.toList.head? = some 'D' := by
  obtain ⟨clauses, -, rfl⟩ := delete_eq_ok.mp h
  exact head_append (head_append (head_ofList 'D' _) _) _

end Sql

namespace Exchange

/-- The statement inserts a row. -/
def IsInsert (x : Exchange) : Prop := "INSERT ".toList <+: x.statement.sql.toList

/-- The statement inserts a row, and some were reported to be written. -/
def Inserted (x : Exchange) : Prop := x.IsInsert ∧ 0 < x.outcome.rowsWritten

instance (x : Exchange) : Decidable x.IsInsert := inferInstanceAs (Decidable (_ <+: _))

instance (x : Exchange) : Decidable x.Inserted := inferInstanceAs (Decidable (_ ∧ _))

/-- A statement of another kind starts with another letter. -/
theorem not_isInsert {x : Exchange} {c : Char} (h : x.statement.sql.toList.head? = some c)
    (hc : c ≠ 'I') : ¬ x.IsInsert := by
  intro hx
  rw [head_of_begins hx (head_ofList 'I' _)] at h
  exact hc (Option.some.inj h).symm

theorem key_not_isInsert (name : String) (o : Outcome) :
    ¬ IsInsert ⟨⟨Table.primaryKeySql, [.text name]⟩, o⟩ :=
  not_isInsert Table.primaryKeySql_head (by decide)

theorem lastInsert_not_isInsert (o : Outcome) : ¬ IsInsert ⟨⟨Database.lastInsertSql, []⟩, o⟩ :=
  not_isInsert Database.lastInsertSql_head (by decide)

theorem update_not_isInsert {table : String} {options : Options} {values : Value} {b : BoundSql}
    (h : Sql.update table options values = .ok b) (o : Outcome) : ¬ IsInsert ⟨b, o⟩ :=
  not_isInsert (Sql.update_letter h) (by decide)

theorem delete_not_isInsert {table : String} {options : Options} {b : BoundSql}
    (h : Sql.delete table options = .ok b) (o : Outcome) : ¬ IsInsert ⟨b, o⟩ :=
  not_isInsert (Sql.delete_letter h) (by decide)

end Exchange

/-- Nothing but what was announced differs between two worlds. -/
def World.Announced (w w' : World) : Prop := ∃ events, w' = { w with events := events }

instance : Std.Refl World.Announced := ⟨fun w => ⟨w.events, rfl⟩⟩

namespace Record

/-! ### What records send -/

variable {Q : Exchange → Prop} {id : Nat} {w : World}

theorem reads_calling (id : Nat) (name : String) (w : World) : Reads (calling id name) w := by
  refine .bind (reads_row id w) fun r _ => ?_
  exact .bind (reads_ofFault _ w) fun _ _ => .pure r w

theorem reads_owner (id : Nat) (w : World) : Reads (owner id) w := by
  refine .bind (reads_calling id _ w) fun r _ => ?_
  split
  · exact .pure _ w
  · exact .throw _ w

theorem reads_tableOf (o : Owner) (w : World) : Reads (tableOf o) w := by
  unfold tableOf
  split <;> rfl

/-- Announcing changes nothing but what was announced, whether it fails or not. -/
theorem announces (id : Nat) (name : String) (e : Event) (w : World) :
    Keeps World.Announced (announce id name e) w := by
  refine .bind_reads (reads_row id w) fun r _ => ?_
  split
  · exact .pure _ w
  · exact .bind_reads (reads_calling id name w) fun _ _ => .pure _ w
  · refine .bind_reads (reads_calling id name w) fun _ _ => ?_
    exact ⟨_, rfl⟩

theorem keeps_announce (id : Nat) (name : String) (e : Event) (w : World) :
    Keeps (World.Reaches Q) (announce id name e) w := by
  refine (announces id name e w).mono ?_
  rintro _ ⟨events, rfl⟩
  exact .of_eq rfl rfl rfl

section Keys

variable (hkey : ∀ name o, Q ⟨⟨Table.primaryKeySql, [.text name]⟩, o⟩)
include hkey

theorem keeps_primaryKeyValues (id : Nat) (w : World) :
    Keeps (World.Reaches Q) (primaryKeyValues id) w := by
  refine .bind_reads (reads_calling id _ w) fun _ _ => ?_
  refine .bind_reads (reads_owner id w) fun o _ => ?_
  refine .bind_reads (reads_tableOf o w) fun t _ => ?_
  refine .bind (keeps_primaryKey t (hkey t.name)) fun key u _ => ?_
  split_ifs
  · exact .pure _ u
  · refine .bind_reads (reads_row id u) fun r _ => ?_
    exact .bind_reads (reads_ofFault _ u) fun pairs _ => .pure _ u

theorem keeps_selfQuery (id : Nat) (w : World) : Keeps (World.Reaches Q) (selfQuery id) w := by
  refine .bind_reads (reads_calling id _ w) fun _ _ => ?_
  refine .bind_reads (reads_owner id w) fun o _ => ?_
  refine .bind (keeps_primaryKeyValues hkey id w) fun key u _ => ?_
  split
  · exact .bind_reads (reads_tableOf o u) fun t _ => .throw _ u
  · refine .bind_reads (reads_ofExcept _ u) fun c _ => ?_
    exact .bind_reads (reads_tableOf o u) fun t _ => .of_reads (reads_ofExcept _ u)

/-- Updating sends the question for the key and an update at most. -/
theorem keeps_update (hq : ∀ table options values b o,
      Sql.update table options values = .ok b → Q ⟨b, o⟩) (id : Nat) (w : World) :
    Keeps (World.Reaches Q) (update id) w := by
  refine .bind (keeps_selfQuery hkey id w) fun q u _ => ?_
  refine .bind_reads (reads_row id u) fun r _ => ?_
  refine .bind_reads (reads_ofFault _ u) fun values _ => ?_
  refine .bind (keeps_runQuery (.bind_reads rfl fun x _ => ?_)) fun n v _ => .pure _ v
  exact keeps_change (fun b hb => .admits fun o => hq _ _ _ b o hb) (q, u)

/-- Deleting sends the question for the key and a deletion at most. -/
theorem keeps_delete (hq : ∀ table options b o, Sql.delete table options = .ok b → Q ⟨b, o⟩)
    (id : Nat) (w : World) : Keeps (World.Reaches Q) (delete id) w := by
  refine .bind_reads (reads_calling id _ w) fun r _ => ?_
  split_ifs
  · exact .pure _ w
  · refine .bind (keeps_selfQuery hkey id w) fun q u _ => ?_
    refine .bind (keeps_announce id _ _ u) fun _ v _ => ?_
    refine .bind (keeps_runQuery (.bind_reads rfl fun x _ => ?_)) fun n t _ => ?_
    · exact keeps_change (fun b hb => .admits fun o => hq _ _ b o hb) (q, v)
    · exact .bind (keeps_announce id _ _ t) fun _ s _ => .pure _ s

end Keys

end Record

/-! ### Reports of insertions -/

/-- What a change of rows is told: the number of rows changed, or why it failed. -/
def Outcome.counted : Outcome → Except Error Int
  | .failure code text _ => .error (.database (.driver code text))
  | .result _ _ rowCount _ => .ok rowCount

theorem Exchange.Inserted.counted {x : Exchange} (h : x.Inserted) :
    ∃ n, x.outcome.counted = .ok n ∧ 0 < n := by
  obtain ⟨b, o⟩ := x
  cases o with
  | failure code text columns => exact absurd h.2 (Int.lt_irrefl 0)
  | result columns rows n last => exact ⟨n, rfl, h.2⟩

/-- The number of a row that a statement was answered with. -/
def Outcome.lastRowId : Outcome → Value
  | .failure _ _ _ => .null
  | .result _ _ _ lastRowId => lastRowId

/-- A table that inserts a row fails before anything is sent, or sends one statement and is told how
many rows it wrote. The number of the row is remembered. -/
theorem Table.run_insert (t : Table) (values : Value) (w : World) :
    (∃ e, (t.insert values).run.run w = (.error e, w)) ∨
      ∃ b id d s, Sql.insert t.name values = .ok b ∧ t.database = some id ∧
        w.databases[id]? = some d ∧
        s.lastRowId = (w.connection.queue.headD .empty).lastRowId ∧ (t.insert values).run.run w =
          ((w.connection.queue.headD .empty).counted, w.asked id d b s) := by
  rw [insert, run_bind, run_ofExcept]
  cases Sql.insert t.name values with
  | error e => exact .inl ⟨e, rfl⟩
  | ok b =>
    simp only
    rw [run_bind, run_databaseId]
    cases t.database with
    | none => exact .inl ⟨_, rfl⟩
    | some id =>
      simp only
      cases hd : w.databases[id]? with
      | none => exact .inl ⟨_, run_bind_of_error (Statement.run_prepare_none hd) _⟩
      | some d =>
        rw [Statement.run_ask b.sql (fun s => do return (← Statement.get s).rowCount) hd
          (Value.bound?_list b.args)]
        cases w.connection.queue.headD .empty with
        | failure code text columns =>
          exact .inr ⟨b, id, d, ({ sql := b.sql } : Prepared).interrupt columns, rfl, rfl, hd, rfl,
            rfl⟩
        | result columns rows rowCount lastRowId =>
          refine .inr ⟨b, id, d, ({ sql := b.sql } : Prepared).receive columns rows rowCount
            lastRowId, rfl, rfl, hd, rfl, ?_⟩
          simp only
          rw [run_bind, run_statement]
          simp only [World.asked, List.getElem?_concat_length]
          rfl

namespace World

/-- No insertion was sent between two worlds. -/
abbrev Idle : World → World → Prop := Sends fun x => ¬ x.IsInsert

/-- When an insertion that was sent between two worlds wrote rows, something holds. -/
def Reports (w w' : World) (C : Prop) : Prop :=
  ∃ xs, w.connection.Exchanges xs w'.connection ∧ ((∃ x ∈ xs, x.Inserted) → C)

namespace Reports

variable {u v w : World} {C : Prop}

theorem of_idle (h : Idle u v) : Reports u v C := by
  obtain ⟨xs, hxs, hx⟩ := h
  refine ⟨xs, hxs, ?_⟩
  rintro ⟨x, hmem, hi, -⟩
  exact absurd hi (hx x hmem)

theorem after_idle (h : Idle u v) (hr : Reports v w C) : Reports u w C := by
  obtain ⟨xs, hxs, hx⟩ := h
  obtain ⟨ys, hys, hy⟩ := hr
  refine ⟨xs ++ ys, hxs.append hys, ?_⟩
  rintro ⟨z, hmem, hz⟩
  rcases List.mem_append.mp hmem with hmem | hmem
  · exact absurd hz.1 (hx z hmem)
  · exact hy ⟨z, hmem, hz⟩

theorem before_idle (hr : Reports u v C) (h : Idle v w) : Reports u w C := by
  obtain ⟨xs, hxs, hx⟩ := hr
  obtain ⟨ys, hys, hy⟩ := h
  refine ⟨xs ++ ys, hxs.append hys, ?_⟩
  rintro ⟨z, hmem, hz⟩
  rcases List.mem_append.mp hmem with hmem | hmem
  · exact hx ⟨z, hmem, hz⟩
  · exact absurd hz.1 (hy z hmem)

theorem mono {D : Prop} (hr : Reports u v C) (hCD : C → D) : Reports u v D := by
  obtain ⟨xs, hxs, hC⟩ := hr
  exact ⟨xs, hxs, fun h => hCD (hC h)⟩

/-- Of one statement that is sent, the count it is answered with decides. -/
theorem of_asked {id : Nat} {d : Database} {b : BoundSql} {s : Prepared}
    (hC : ∀ n, (u.connection.queue.headD .empty).counted = .ok n → 0 < n → C) :
    Reports u (u.asked id d b s) C := by
  refine ⟨[⟨b, (u.connection.send b).1⟩], .next (.none rfl rfl), ?_⟩
  rintro ⟨x, hx, hi⟩
  obtain rfl := List.mem_singleton.mp hx
  obtain ⟨n, hn, hpos⟩ := hi.counted
  exact hC n hn hpos

end Reports

end World

/-- When an insertion that an act sends wrote rows, something holds of how the act ends. -/
def Confirms {α : Type} (C : Except Error α × World → Prop) (a : Act α) (w : World) : Prop :=
  World.Reports w (a.run.run w).2 (C (a.run.run w))

namespace Confirms

variable {α β : Type} {C : Except Error α × World → Prop} {D : Except Error β × World → Prop}
  {a : Act α} {f : α → Act β} {w : World}

theorem of_idle (h : Keeps World.Idle a w) : Confirms C a w := World.Reports.of_idle h

/-- What is idle may come first. -/
theorem after (ha : Keeps World.Idle a w)
    (hf : ∀ x u, a.run.run w = (.ok x, u) → Confirms D (f x) u) : Confirms D (a >>= f) w := by
  unfold Confirms at *
  rcases h : a.run.run w with ⟨e | x, u⟩
  · rw [run_bind_of_error h]
    exact .of_idle (ha.of_run h)
  · rw [run_bind_of_ok h]
    exact (hf x u h).after_idle (ha.of_run h)

theorem after_reads (ha : Reads a w)
    (hf : ∀ x, a.run.run w = (.ok x, w) → Confirms D (f x) w) : Confirms D (a >>= f) w := by
  refine after (.of_reads ha) fun x u h => ?_
  obtain rfl := ha.eq_of_run h
  exact hf x h

/-- What is idle may come last. -/
theorem before (ha : Confirms C a w) (hf : ∀ x v, Keeps World.Idle (f x) v)
    (hCD : C (a.run.run w) → D ((a >>= f).run.run w)) : Confirms D (a >>= f) w := by
  have hidle : World.Idle (a.run.run w).2 ((a >>= f).run.run w).2 := by
    rcases h : a.run.run w with ⟨e | x, v⟩
    · rw [run_bind_of_error h]
      exact Std.Refl.refl v
    · rw [run_bind_of_ok h]
      exact hf x v
  exact (World.Reports.before_idle ha hidle).mono hCD

end Confirms

namespace Table

/-- A table that inserts a row sends this insertion at most. -/
theorem keeps_insert {Q : Exchange → Prop} {t : Table} {values : Value}
    (hq : ∀ b o, Sql.insert t.name values = .ok b → Q ⟨b, o⟩) (w : World) :
    Keeps (World.Reaches Q) (t.insert values) w := by
  refine .bind_reads (reads_ofExcept _ w) fun b hb => ?_
  refine .bind_reads (reads_databaseId t w) fun id _ => ?_
  refine keeps_ask (Value.bound?_list _) (.admits fun o => hq b o (Prod.mk.inj hb).1) fun s u => ?_
  exact .bind_reads (reads_statement s u) fun r _ => .pure _ u

/-- An insertion that wrote rows says so. -/
theorem confirms_insert (t : Table) (values : Value) (w : World) :
    Confirms (fun run => ∃ n, run.1 = .ok n ∧ 0 < n) (t.insert values) w := by
  unfold Confirms
  rcases t.run_insert values w with ⟨e, he⟩ | ⟨b, id, d, s, -, -, -, -, hrun⟩
  · rw [he]
    exact .of_idle (Std.Refl.refl w)
  · rw [hrun]
    exact .of_asked fun n hn hpos => ⟨n, hn, hpos⟩

end Table

/-! ### Rows of records -/

namespace Row

theorem set_model {r s : Row} {name v : Value} (h : r.set name v = .ok s) :
    s.model = r.model := by
  unfold set assign assignHidden attach setField at h
  split at h
  · split_ifs at h <;> cases h <;> rfl
  · contradiction

theorem isRecord_of_checkCall {r : Row} (h : r.checkCall "save" = .ok ()) :
    r.model.isRecord = true := by
  have hf : r.model.functions.contains "save" = true := by
    unfold Row.checkCall at h
    split_ifs at h with ha hf
    · exact hf
    · cases hg : r.get (.text "save") <;> rw [hg] at h <;> contradiction
  cases hm : r.model.isRecord with
  | true => rfl
  | false =>
    have hrow : Model.rowFunctions.contains "save" = false := by decide
    have hhook : Model.hookFunctions.contains "save" = false := by decide
    unfold Model.functions at hf
    rw [hm] at hf
    split_ifs at hf <;> simp_all

theorem get_isNew {r : Row} (h : r.model.isRecord = true) :
    r.get (.text "is_new") = .ok r.isNew := by
  have hp : r.model.properties.contains "is_new" = true := by
    simp [Model.properties, h]
  simp only [Row.get, Row.attribute?, hp, Row.property, ↓reduceIte]
  rfl

end Row

namespace Record

variable {id : Nat} {w : World}

/-- A record that is known to its table. -/
def Settled (id : Nat) (w : World) : Prop :=
  ∃ r, w.rows[id]? = some r ∧ r.model.isRecord = true ∧ r.isNew = .bool false

theorem Settled.reaches {Q : Exchange → Prop} {w' : World} (h : Settled id w)
    (hw : World.Reaches Q w w') : Settled id w' := by
  obtain ⟨r, hr, hn⟩ := h
  exact ⟨r, hw.row_eq hr, hn⟩

/-- A record that is known says that it is not new. -/
theorem Settled.isNew_eq (h : Settled id w) : (isNew id).run.run w = (.ok (.bool false), w) := by
  obtain ⟨r, hr, hm, hn⟩ := h
  rw [isNew, run_bind_of_ok (run_row_eq_ok.mpr ⟨hr, rfl⟩), run_ofFault, Row.get_isNew hm, hn]
  rfl

/-! ### The insertion -/

/-- Marks a record as known after a success, and as new otherwise. -/
def mark (id : Nat) (success : Bool) : Act Bool := do
  let r ← World.row id
  World.setRow id { r with isNew := .bool !success }
  return success

/-- What remains of an insertion after the statement was answered. -/
def settle (id : Nat) (t : Table) (key : List Value) (success : Bool) : Act Bool := do
  if success then
    match key with
    | [column] =>
      let number ← Database.lastInsertId (← t.databaseId)
      if number ≠ 0 then
        let r ← World.row id
        World.setRow id (← Act.ofFault (r.set column (.int number)))
    | _ => pure ()
  mark id success

theorem insert_eq (id : Nat) (t : Table) : insert id t = (do
    let key ← t.primaryKey
    let r ← World.row id
    let inserted ← t.insert (← Act.ofFault (r.dump r.givenColumns))
    settle id t key (decide (0 < inserted))) := rfl

section Inserts

variable {Q : Exchange → Prop} {R : World → World → Prop} [Std.Refl R] [IsTrans World R]
  (hset : ∀ id r w, Keeps R (World.setRow id r) w)
include hset

theorem keeps_mark (id : Nat) (success : Bool) (w : World) : Keeps R (mark id success) w := by
  refine .bind_reads (reads_row id w) fun r _ => ?_
  exact .bind (hset id _ w) fun _ u _ => .pure _ u

variable (hR : ∀ w u, World.Reaches Q w u → R w u)
  (hlast : ∀ o, Q ⟨⟨Database.lastInsertSql, []⟩, o⟩)
include hR hlast

/-- What remains of an insertion asks for the number of the row at most. -/
theorem keeps_settle (id : Nat) (t : Table) (key : List Value) (success : Bool) (w : World) :
    Keeps R (settle id t key success) w := by
  unfold settle
  dsimp only
  split_ifs
  · split
    · refine .bind_reads (reads_databaseId t w) fun d _ => ?_
      refine .bind ((keeps_lastInsertId hlast).mono (hR w)) fun number u _ => ?_
      split_ifs
      · refine .bind_reads (reads_row id u) fun r _ => ?_
        refine .bind_reads (reads_ofFault _ u) fun r _ => ?_
        exact .bind (hset id r u) fun _ v _ => keeps_mark hset id success v
      · exact keeps_mark hset id success u
    · exact keeps_mark hset id success w
  · exact keeps_mark hset id success w

/-- Inserting a record sends the question for its key, the insertion, and the question for the
number of the row at most. -/
theorem keeps_insert (hkey : ∀ name o, Q ⟨⟨Table.primaryKeySql, [.text name]⟩, o⟩)
    (hinsert : ∀ table values b o, Sql.insert table values = .ok b → Q ⟨b, o⟩) (id : Nat)
    (t : Table) (w : World) : Keeps R (insert id t) w := by
  rw [insert_eq]
  refine .bind ((keeps_primaryKey t (hkey t.name)).mono (hR w)) fun key u _ => ?_
  refine .bind_reads (reads_row id u) fun r _ => ?_
  refine .bind_reads (reads_ofFault _ u) fun values _ => ?_
  refine .bind ((Table.keeps_insert (hinsert _ _) u).mono (hR u)) fun n v _ => ?_
  exact keeps_settle hset hR hlast id t key _ v

end Inserts

theorem sends_setRow {Q : Exchange → Prop} (id : Nat) (r : Row) (w : World) :
    Keeps (World.Sends Q) (World.setRow id r) w :=
  ⟨[], .none rfl rfl, fun _ hx => absurd hx List.not_mem_nil⟩

/-- How an insertion that wrote rows ends: with a record that is known, or with a failure to take
the number of a single key column. -/
def Ends (id : Nat) (t : Table) (run : Except Error Bool × World) : Prop :=
  (run.1 = .ok true ∧ Settled id run.2) ∨
    ((∃ e, run.1 = .error e) ∧ ∃ column, Keyed.find? run.2.primaryKeys t.id = some [column])

theorem mark_ends {r : Row} (hr : w.rows[id]? = some r) (hm : r.model.isRecord = true)
    (t : Table) : Ends id t ((mark id true).run.run w) := by
  have hlt : id < w.rows.length := (List.getElem?_eq_some_iff.mp hr).1
  rw [mark, run_bind_of_ok (run_row_eq_ok.mpr ⟨hr, rfl⟩)]
  exact .inl ⟨rfl, _, List.getElem?_set_self hlt, hm, rfl⟩

theorem settle_ends {t : Table} {key : List Value} {r : Row} (hr : w.rows[id]? = some r)
    (hm : r.model.isRecord = true) (hkey : Keyed.find? w.primaryKeys t.id = some key) :
    Ends id t ((settle id t key true).run.run w) := by
  unfold settle
  simp only [↓reduceIte]
  split
  · rename_i column
    rw [run_bind, run_databaseId]
    cases t.database with
    | none => exact .inr ⟨⟨_, rfl⟩, column, hkey⟩
    | some d =>
      have hlast : Keeps (World.Reaches fun _ => True) (Database.lastInsertId d) w :=
        keeps_lastInsertId fun _ => trivial
      simp only
      rcases hn : (Database.lastInsertId d).run.run w with ⟨e | number, u⟩
      · rw [run_bind_of_error hn]
        exact .inr ⟨⟨e, rfl⟩, column, (hlast.of_run hn).keys _ _ hkey⟩
      · rw [run_bind_of_ok hn]
        have hu := hlast.of_run hn
        have hru := hu.row_eq hr
        by_cases h0 : number = 0
        · simp only [h0, ne_eq, not_true_eq_false, ↓reduceIte]
          exact mark_ends hru hm t
        · simp only [ne_eq, h0, not_false_eq_true, ↓reduceIte]
          rw [run_bind_of_ok (run_row_eq_ok.mpr ⟨hru, rfl⟩), run_bind, run_ofFault]
          cases hs : r.set column (.int number) with
          | error e => exact .inr ⟨⟨_, rfl⟩, column, hu.keys _ _ hkey⟩
          | ok r' =>
            have hlt : id < u.rows.length := (List.getElem?_eq_some_iff.mp hru).1
            have hr' : (u.rows.set id r')[id]? = some r' := List.getElem?_set_self hlt
            have hm' : r'.model.isRecord = true :=
              (congrArg Model.isRecord (Row.set_model hs)).trans hm
            exact mark_ends (w := { u with rows := u.rows.set id r' }) hr' hm' t
  · exact mark_ends hr hm t

/-- An insertion that wrote rows leaves a record that is known, unless it fails to take the number
of a single key column. -/
theorem confirms_insert (t : Table) {r : Row} (hr : w.rows[id]? = some r)
    (hm : r.model.isRecord = true) : Confirms (Ends id t) (insert id t) w := by
  have hkeep : Keeps (World.Reaches fun x => ¬ x.IsInsert) t.primaryKey w :=
    keeps_primaryKey t (Exchange.key_not_isInsert t.name)
  rw [insert_eq]
  refine .after (hkeep.mono fun _ h => h.exchanges) fun key u hk => ?_
  have hru : u.rows[id]? = some r := (hkeep.of_run hk).row_eq hr
  refine .after_reads (reads_row id u) fun r' _ => ?_
  refine .after_reads (reads_ofFault _ u) fun values _ => ?_
  refine (t.confirms_insert values u).before (fun n v => keeps_settle sends_setRow
    (fun _ _ h => h.sends) Exchange.lastInsert_not_isInsert id t key _ v) ?_
  rintro ⟨n, hn, hpos⟩
  have hsent : Keeps (World.Reaches fun _ => True) (t.insert values) u :=
    Table.keeps_insert (fun _ _ _ => trivial) u
  rcases hrun : (t.insert values).run.run u with ⟨x, v⟩
  rw [hrun] at hn
  obtain rfl : x = .ok n := hn
  rw [run_bind_of_ok hrun, decide_eq_true hpos]
  have hv := hsent.of_run hrun
  exact settle_ends (hv.row_eq hru) hm (hv.keys _ _ (primaryKey_known hk))

/-! ### Calls -/

theorem calling_eq_ok {name : String} {r : Row} {u : World}
    (h : (calling id name).run.run w = (.ok r, u)) :
    w.rows[id]? = some r ∧ r.checkCall name = .ok () := by
  obtain ⟨r', v, hrow, hrest⟩ := run_bind_eq_ok.mp h
  obtain ⟨⟨⟩, t, hcheck, hr⟩ := run_bind_eq_ok.mp hrest
  obtain ⟨hr, -⟩ := Prod.mk.inj hr
  obtain ⟨hcheck, -⟩ := Prod.mk.inj hcheck
  rw [← Except.ok.inj hr]
  exact ⟨(run_row_eq_ok.mp hrow).1, Result.mapError_eq_ok.mp hcheck⟩

theorem owner_eq_ok {o : Owner} {u : World} (h : (owner id).run.run w = (.ok o, u)) :
    ∃ r, w.rows[id]? = some r ∧ r.owner = some o := by
  obtain ⟨r, v, hr, h⟩ := run_bind_eq_ok.mp h
  refine ⟨r, (calling_eq_ok hr).1, ?_⟩
  split at h
  · rename_i o' ho
    obtain ⟨hx, -⟩ := Prod.mk.inj h
    rw [ho, Except.ok.inj hx]
  · cases h

theorem tableOf_eq_ok {o : Owner} {t : Table} {u : World}
    (h : (tableOf o).run.run w = (.ok t, u)) : o = .table t := by
  cases o with
  | table t' => exact congrArg _ (Except.ok.inj (Prod.mk.inj h).1)
  | value v => cases h

/-- A save that wrote a new row ends with a record that is known, or fails to take the number of a
single key column. -/
def SaveEnds (id : Nat) (w : World) (run : Except Error Bool × World) : Prop :=
  (∀ b, run.1 = .ok b → b = true ∧ Settled id run.2) ∧
    (Settled id run.2 ∨ (∃ e, run.1 = .error e) ∧ ∃ r t column, w.rows[id]? = some r ∧
      r.owner = some (.table t) ∧ Keyed.find? run.2.primaryKeys t.id = some [column])

/-- What is announced after an insertion changes nothing about how it ended. -/
theorem announce_ends {t : Table} {r : Row} {a : Act Bool} {u : World} (hr : w.rows[id]? = some r)
    (ho : r.owner = some (.table t)) (h : Ends id t (a.run.run u)) :
    SaveEnds id w ((do
      let success ← a
      announce id "after_saving" (.afterSaving success)
      return success : Act Bool).run.run u) := by
  rcases ha : a.run.run u with ⟨x, v⟩
  rw [ha] at h
  rcases h with ⟨hx, hs⟩ | ⟨⟨e, hx⟩, column, hk⟩ <;> simp only at hx <;> rw [hx] at ha
  · rw [run_bind_of_ok ha]
    have hkeep := keeps_announce (Q := fun _ => True) id "after_saving" (.afterSaving true) v
    rcases hb : (announce id "after_saving" (.afterSaving true)).run.run v with ⟨e | _, z⟩
    · rw [run_bind_of_error hb]
      exact ⟨(fun _ hb => nomatch hb), .inl (hs.reaches (hkeep.of_run hb))⟩
    · rw [run_bind_of_ok hb]
      have hz := hs.reaches (hkeep.of_run hb)
      exact ⟨fun b hb => ⟨(Except.ok.inj hb).symm, hz⟩, .inl hz⟩
  · rw [run_bind_of_error ha]
    exact ⟨(fun _ hb => nomatch hb), .inr ⟨⟨e, rfl⟩, r, t, column, hr, ho, hk⟩⟩

theorem confirms_save (id : Nat) (w : World) : Confirms (SaveEnds id w) (save id) w := by
  have hafter : ∀ success u, Keeps World.Idle (do
      announce id "after_saving" (.afterSaving success)
      return success : Act Bool) u :=
    fun success u => .bind ((keeps_announce id _ _ u).mono fun _ h => h.exchanges)
      fun _ v _ => .pure _ v
  have hbefore : Keeps (World.Reaches fun x => ¬ x.IsInsert)
      (announce id "before_saving" .beforeSaving) w := keeps_announce id _ _ w
  refine .after_reads (reads_calling id _ w) fun r hc => ?_
  refine .after_reads (reads_owner id w) fun o ho => ?_
  refine .after (hbefore.mono fun _ h => h.exchanges) fun _ u hb => ?_
  refine .after_reads (reads_row id u) fun r' _ => ?_
  split_ifs
  · refine .after_reads (reads_tableOf o u) fun t ht => ?_
    obtain ⟨r₀, hr₀, howner⟩ := owner_eq_ok ho
    obtain rfl := tableOf_eq_ok ht
    obtain ⟨hr, hcheck⟩ := calling_eq_ok hc
    have hru : u.rows[id]? = some r := (hbefore.of_run hb).row_eq hr
    exact (confirms_insert t hru (Row.isRecord_of_checkCall hcheck)).before hafter
      (announce_ends hr₀ howner)
  · have hupdate : Keeps (World.Reaches fun x => ¬ x.IsInsert) (update id) u :=
      keeps_update Exchange.key_not_isInsert
        (fun _ _ _ _ o hb => Exchange.update_not_isInsert hb o) id u
    exact .of_idle (.bind (hupdate.mono fun _ h => h.exchanges) fun success v _ => hafter success v)

/-! ### Histories -/

/-- A call that writes a record. -/
inductive Call
  | save
  | delete
  deriving DecidableEq, Repr

def Call.run (id : Nat) : Call → Act Bool
  | .save => Record.save id
  | .delete => Record.delete id

/-- The world after some calls on a record, whether they fail or not. -/
def after (id : Nat) (calls : List Call) (w : World) : World :=
  calls.foldl (fun w call => ((call.run id).run.run w).2) w

/-- Saving a record that is known inserts nothing. -/
theorem Settled.keeps_save (h : Settled id w) :
    Keeps (World.Reaches fun x => ¬ x.IsInsert) (save id) w := by
  refine .bind_reads (reads_calling id _ w) fun _ _ => ?_
  refine .bind_reads (reads_owner id w) fun o _ => ?_
  refine .bind (keeps_announce id _ _ w) fun _ u hu => ?_
  have hs : Settled id u := h.reaches ((keeps_announce (Q := fun _ => True) id _ _ w).of_run hu)
  refine .bind_reads (reads_row id u) fun r hr => ?_
  obtain ⟨r', hr', -, hn⟩ := hs
  obtain rfl : r = r' := Option.some.inj ((run_row_eq_ok.mp hr).1.symm.trans hr')
  rw [hn]
  refine .bind (keeps_update Exchange.key_not_isInsert
    (fun _ _ _ _ o hb => Exchange.update_not_isInsert hb o) id u) fun success v _ => ?_
  exact .bind (keeps_announce id _ _ v) fun _ z _ => .pure _ z

theorem Settled.keeps_call (h : Settled id w) (call : Call) :
    Keeps (World.Reaches fun x => ¬ x.IsInsert) (call.run id) w := by
  cases call with
  | save => exact h.keeps_save
  | delete =>
    exact keeps_delete Exchange.key_not_isInsert
      (fun _ _ _ o hb => Exchange.delete_not_isInsert hb o) id w

/-- A record that is known inserts nothing in any later call. -/
theorem Settled.reaches_after (h : Settled id w) (calls : List Call) :
    World.Reaches (fun x => ¬ x.IsInsert) w (after id calls w) := by
  induction calls generalizing w with
  | nil => exact Std.Refl.refl w
  | cons call calls ih =>
    have hstep : World.Reaches (fun x => ¬ x.IsInsert) w ((call.run id).run.run w).2 :=
      h.keeps_call call
    exact trans_of (World.Reaches fun x => ¬ x.IsInsert) hstep (ih (h.reaches hstep))

/-- However it is saved and deleted later, a record is not new, and it is not inserted. -/
def StaysSettled (id : Nat) (w : World) : Prop :=
  ∀ calls, (isNew id).run.run (after id calls w) = (.ok (.bool false), after id calls w) ∧
    ∃ xs, w.connection.Exchanges xs (after id calls w).connection ∧ ∀ x ∈ xs, ¬ x.IsInsert

theorem Settled.stays (h : Settled id w) : StaysSettled id w := fun calls =>
  ⟨(h.reaches (h.reaches_after calls)).isNew_eq, (h.reaches_after calls).exchanges⟩

/-- A record is inserted once: after a save that wrote a new row and returned, it is never new and
never inserted again. So it is after a save that failed, unless the number of a single key column
could not be taken. -/
theorem save_inserts_once (id : Nat) (w : World) : ∃ xs,
    w.connection.Exchanges xs ((save id).run.run w).2.connection ∧
      ((∃ x ∈ xs, x.Inserted) →
        (∀ b, ((save id).run.run w).1 = .ok b →
          b = true ∧ StaysSettled id ((save id).run.run w).2) ∧
        (StaysSettled id ((save id).run.run w).2 ∨
          (∃ e, ((save id).run.run w).1 = .error e) ∧
            ∃ r t column, w.rows[id]? = some r ∧ r.owner = some (.table t) ∧
              Keyed.find? ((save id).run.run w).2.primaryKeys t.id = some [column])) := by
  obtain ⟨xs, hxs, hends⟩ := confirms_save id w
  refine ⟨xs, hxs, fun hinserted => ?_⟩
  obtain ⟨hok, hany⟩ := hends hinserted
  refine ⟨fun b hb => ⟨(hok b hb).1, (hok b hb).2.stays⟩, ?_⟩
  rcases hany with hs | hfailed
  · exact .inl hs.stays
  · exact .inr hfailed

/-- The world after a record was made of a table's model, with outcomes that are yet to come. -/
def newUser (queue : List Outcome) : World :=
  ((do
    let d ← Database.create "shop" .null
    let t ← Database.table d (.text "users")
    t.new (.map [(.text "name", .text "Ann")]) : Act Nat).run.run { connection := { queue } }).2

/-- A key of one column, and a row that is inserted. -/
def keyAndRow (number : Value) : List Outcome :=
  [.result ["COLUMN_NAME"] [[.text "id"]] 1 .null, .result [] [] 1 number]

theorem newUser_inserted : (∃ x ∈ (newUser (keyAndRow (.int 7))).connection.answers
      (((save 0).run.run (newUser (keyAndRow (.int 7)))).2.connection.sent.drop
        (newUser (keyAndRow (.int 7))).connection.sent.length), x.Inserted) ∧
    ((save 0).run.run (newUser (keyAndRow (.int 7)))).1.toOption = some true := by
  decide +kernel

/-- A record that got its number stays known. -/
theorem newUser_inserted_once : ∃ xs,
    (newUser (keyAndRow (.int 7))).connection.Exchanges xs
        ((save 0).run.run (newUser (keyAndRow (.int 7)))).2.connection ∧
      (∃ x ∈ xs, x.Inserted) ∧
      StaysSettled 0 ((save 0).run.run (newUser (keyAndRow (.int 7)))).2 := by
  obtain ⟨xs, hxs, h⟩ := save_inserts_once 0 (newUser (keyAndRow (.int 7)))
  obtain ⟨hinserted, hsaved⟩ := newUser_inserted
  rw [← hxs.eq_answers] at hinserted
  refine ⟨xs, hxs, hinserted, ?_⟩
  obtain ⟨hok, -⟩ := h hinserted
  cases hrun : ((save 0).run.run (newUser (keyAndRow (.int 7)))).1 with
  | error e =>
    rw [hrun] at hsaved
    contradiction
  | ok b => exact (hok b hrun).2

/-- A script on which the number of a row cannot be read, and after which the row can be inserted
again. -/
def lostNumber : List Outcome :=
  keyAndRow .null ++ [.failure 2006 "gone", .result [] [] 1 (.int 8)]

/-- A record that lost its number is still new, and its next save inserts it again. -/
theorem lostNumber_inserted_twice : ∃ xs ys,
    (newUser lostNumber).connection.Exchanges xs
        ((save 0).run.run (newUser lostNumber)).2.connection ∧
      (∃ x ∈ xs, x.Inserted) ∧
      ((isNew 0).run.run ((save 0).run.run (newUser lostNumber)).2).1 = .ok (.bool true) ∧
      ((save 0).run.run (newUser lostNumber)).2.connection.Exchanges ys
        (after 0 [.save, .save] (newUser lostNumber)).connection ∧
      ∃ y ∈ ys, y.Inserted := by
  obtain ⟨xs, hxs, -⟩ := confirms_save 0 (newUser lostNumber)
  obtain ⟨ys, hys, -⟩ := confirms_save 0 ((save 0).run.run (newUser lostNumber)).2
  refine ⟨xs, ys, hxs, ?_, ?_, hys, ?_⟩
  · rw [hxs.eq_answers]
    decide +kernel
  · rfl
  · rw [hys.eq_answers]
    decide +kernel

end Record

end RowQuery

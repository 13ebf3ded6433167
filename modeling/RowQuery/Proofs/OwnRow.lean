import RowQuery.Proofs.Pinning

/-! Runs of calls on a record whose functions can be called. Saving and deleting such a record asks
for the key of its table, when that is not known yet, and sends the one statement that the columns
of the key and the values of the record spell. -/

namespace RowQuery

open Running

/-! ### Records whose functions can be called -/

/-- A row of a record, with no value in the place of a function. -/
structure Row.IsIntact (r : Row) : Prop where
  isRecord : r.model.isRecord = true
  free : ∀ name ∈ r.model.functions, Keyed.hasKey r.attached name = false

namespace Row.IsIntact

variable {r : Row} {name : String}

theorem checkCall (h : r.IsIntact) (hn : name ∈ r.model.functions) : r.checkCall name = .ok () := by
  rw [Row.checkCall, h.free name hn]
  simp [hn]

theorem mem_functions (h : r.IsIntact)
    (hn : name ∈ Model.rowFunctions ++ Model.recordFunctions) : name ∈ r.model.functions := by
  rw [Model.functions, h.isRecord]
  exact List.mem_append_left _ hn

theorem mem_functions_of_hooks (hh : r.model.hooks ≠ .none) (hn : name ∈ Model.hookFunctions) :
    name ∈ r.model.functions := by
  rw [Model.functions, if_neg hh]
  exact List.mem_append_right _ hn

theorem asMapping_eq (h : r.IsIntact) : r.asMapping = .ok r.toValue := by
  have hdict : r.checkCall "as_dict" = .ok () :=
    h.checkCall (h.mem_functions (by simp [Model.rowFunctions]))
  have hdump : r.checkCall "model_dump" = .ok () :=
    h.checkCall (h.mem_functions (by simp [Model.rowFunctions]))
  rw [Row.asMapping, hdict, Result.ok_bind, Row.dump, hdump]
  rfl

end Row.IsIntact

/-- Columns with names are assigned one after another. -/
theorem Sql.assignments_plainMap {columns : List (String × Value)} (hne : columns ≠ [])
    (hn : ∀ c ∈ columns, c.1 ≠ "") : assignments (Row.plainMap columns) =
      .ok (Text.join ", " (columns.map fun c => quote c.1 ++ " = ?"),
        columns.map (·.2.plain)) := by
  have hnames : (columns.map fun c => (Value.text c.1, c.2.plain)).mapM
      (fun e => assignedColumn e.1) = .ok (columns.map (·.1)) := by
    rw [Result.mapM_eq_ok, List.forall₂_map_left_iff, List.forall₂_map_right_iff, List.forall₂_same]
    intro c hc
    rw [assignedColumn, if_neg (by simpa using hn c hc)]
  rw [Row.plainMap, assignments, hnames, Result.ok_bind]
  · refine congrArg Except.ok (Prod.ext ?_ ?_)
    · simp [Function.comp_def]
    · simp [Function.comp_def]
  · simpa using hne

namespace Record

/-- A record with functions that can be called, which belongs to a table of a database. -/
structure Belongs (id : Nat) (r : Row) (t : Table) (w : World) : Prop where
  row : w.rows[id]? = some r
  intact : r.IsIntact
  table : r.owner = some (.table t)
  database : ∃ d, t.database = some d ∧ d < w.databases.length

namespace Belongs

variable {id : Nat} {r : Row} {t : Table} {w u : World} {name : String}

theorem run_calling (h : Belongs id r t w) (hn : name ∈ r.model.functions) :
    (calling id name).run.run w = (.ok r, w) := by
  rw [calling, run_bind_of_ok (run_row_eq_ok.mpr ⟨h.row, rfl⟩), run_bind, run_ofFault,
    h.intact.checkCall hn]
  rfl

theorem run_owner (h : Belongs id r t w) : (owner id).run.run w = (.ok (.table t), w) := by
  have hn : "_require_table" ∈ r.model.functions :=
    h.intact.mem_functions (by simp [Model.recordFunctions])
  rw [owner, run_bind_of_ok (h.run_calling hn)]
  simp only [h.table]
  rfl

/-- The world may change where the record, its table and the databases are not concerned. -/
theorem of_reaches {Q : Exchange → Prop} (h : Belongs id r t w) (hu : World.Reaches Q w u)
    (hd : u.databases.length = w.databases.length) : Belongs id r t u where
  row := hu.row_eq h.row
  intact := h.intact
  table := h.table
  database := by
    rw [hd]
    exact h.database

/-- What was announced does not concern a record. -/
theorem announced (h : Belongs id r t w) (events : List Event) :
    Belongs id r t { w with events := events } := ⟨h.row, h.intact, h.table, h.database⟩

/-- Announcing changes nothing but what was announced. -/
theorem run_announce (h : Belongs id r t w) (hn : name ∈ Model.hookFunctions) (e : Event) :
    ∃ events, (announce id name e).run.run w = (.ok (), { w with events := events }) := by
  rw [announce, run_bind_of_ok (run_row_eq_ok.mpr ⟨h.row, rfl⟩)]
  split
  · exact ⟨w.events, rfl⟩
  · rename_i hh
    have hcall := h.run_calling (Row.IsIntact.mem_functions_of_hooks (by simp [hh]) hn)
    rw [run_bind_of_ok hcall]
    exact ⟨w.events, rfl⟩
  · rename_i hh
    have hcall := h.run_calling (Row.IsIntact.mem_functions_of_hooks (by simp [hh]) hn)
    rw [run_bind_of_ok hcall]
    exact ⟨w.events ++ [e], rfl⟩

theorem run_primaryKeyValues (h : Belongs id r t w) :
    (primaryKeyValues id).run.run w = match t.primaryKey.run.run w with
      | (.error e, u) => (.error e, u)
      | (.ok key, u) => (if key.isEmpty then .ok none
          else ((r.keyValues key).mapError .fault).map fun pairs => some (Keyed.ofList pairs), u) := by
  have hvalues : "primary_key_values" ∈ r.model.functions :=
    h.intact.mem_functions (by simp [Model.recordFunctions])
  have htable : (tableOf (.table t)).run.run w = (.ok t, w) := rfl
  have hkeep : Keeps (World.Reaches fun _ => True) t.primaryKey w :=
    keeps_primaryKey t fun _ => trivial
  rw [primaryKeyValues, run_bind_of_ok (h.run_calling hvalues), run_bind_of_ok h.run_owner,
    run_bind_of_ok htable, run_bind]
  rcases hk : t.primaryKey.run.run w with ⟨e | key, u⟩
  · rfl
  · have hr := run_row_eq_ok.mpr ⟨(hkeep.of_run hk).row_eq h.row, rfl⟩
    dsimp only
    split_ifs
    · rfl
    · rw [run_bind_of_ok hr]
      change (do return some (Keyed.ofList (← Act.ofFault (r.keyValues key))) :
        Act (Option (List (String × Value)))).run.run u = _
      rw [run_bind, run_ofFault]
      cases r.keyValues key <;> rfl

/-- Asking for the record's own row does to the world what asking for the key does. -/
theorem run_selfQuery (h : Belongs id r t w) :
    (selfQuery id).run.run w = match t.primaryKey.run.run w with
      | (.error e, u) => (.error e, u)
      | (.ok key, u) => (ownQuery r t key, u) := by
  have hself : "_self_query" ∈ r.model.functions :=
    h.intact.mem_functions (by simp [Model.recordFunctions])
  rw [selfQuery, run_bind_of_ok (h.run_calling hself), run_bind_of_ok h.run_owner, run_bind,
    h.run_primaryKeyValues]
  rcases t.primaryKey.run.run w with ⟨e | key, u⟩
  · rfl
  · have htable : (tableOf (.table t)).run.run u = (.ok t, u) := rfl
    dsimp only
    rw [ownQuery]
    split_ifs
    · rfl
    · cases r.keyValues key with
      | error e => rfl
      | ok pairs =>
        rw [Result.ok_mapError, Result.ok_map, Result.ok_bind]
        dsimp only
        rw [run_bind, run_ofExcept]
        cases hc : pinned (Keyed.ofList pairs) with
        | error e => rfl
        | ok c =>
          rw [Result.ok_mapError, Result.ok_bind]
          dsimp only
          rw [run_bind_of_ok htable, run_ofExcept, create_pinned hc]
          rfl

end Belongs

end Record

/-! ### What is sent for a key -/

namespace Table

variable {t : Table} {w u : World} {d : Nat}

/-- The question for a key that is not known yet. -/
def keyQuestions (t : Table) (w : World) : List BoundSql :=
  if (Keyed.find? w.primaryKeys t.id).isSome then []
  else [⟨primaryKeySql, [.text t.name]⟩]

theorem readPrimaryKey_sent (ht : t.database = some d) (hd : d < w.databases.length) :
    (t.readPrimaryKey.run.run w).2.connection.sent =
      w.connection.sent ++ [⟨primaryKeySql, [.text t.name]⟩] := by
  have hid : t.databaseId.run.run w = (.ok d, w) := by rw [run_databaseId, ht]
  have hdb : w.databases[d]? = some w.databases[d] := List.getElem?_eq_getElem hd
  have hrows : ∀ (s : Nat) (u : World), Reads (do
      let s ← Statement.get s
      Act.ofFault (s.readRows .result none)) u :=
    fun s u => .bind (reads_statement s u) fun _ _ => reads_ofFault _ u
  rw [readPrimaryKey, Reads.snd_run_bind fun _ u => reads_ofFault _ u,
    Reads.snd_run_tryCatch fun e u => .throw _ u, run_bind_of_ok hid,
    Statement.run_ask primaryKeySql _ hdb (Value.bound?_list _)]
  split
  · rfl
  · exact congrArg (fun u : World => u.connection.sent) (hrows _ _)

theorem primaryKey_sent (ht : t.database = some d) (hd : d < w.databases.length) :
    (t.primaryKey.run.run w).2.connection.sent = w.connection.sent ++ t.keyQuestions w := by
  have hsent := readPrimaryKey_sent ht hd
  rw [run_primaryKey, keyQuestions]
  cases Keyed.find? w.primaryKeys t.id with
  | some key => exact (List.append_nil _).symm
  | none =>
    rcases h : t.readPrimaryKey.run.run w with ⟨e | key, u⟩ <;> rw [h] at hsent <;> exact hsent

/-- A key that could not be read stays unknown. -/
theorem primaryKey_unknown {e : Error} (h : t.primaryKey.run.run w = (.error e, u)) :
    Keyed.find? u.primaryKeys t.id = none := by
  have hkeys : Keeps (Function.onFun Eq World.primaryKeys) t.readPrimaryKey w :=
    keeps_readPrimaryKey t fun _ _ _ _ => rfl
  rw [run_primaryKey] at h
  split at h
  · cases h
  · rename_i hnone
    split at h
    · cases h
    · rename_i hr
      obtain ⟨-, rfl⟩ := Prod.mk.inj h
      have hu : w.primaryKeys = _ := hkeys.of_run hr
      rwa [← hu]

theorem primaryKey_databases (t : Table) (w : World) :
    (t.primaryKey.run.run w).2.databases.length = w.databases.length := by
  have hread : Keeps (Function.onFun Eq fun u : World => u.databases.length) t.readPrimaryKey w :=
    keeps_readPrimaryKey t fun u id d s => by simp [Function.onFun, World.asked]
  unfold Keeps at hread
  rw [run_primaryKey]
  split
  · rfl
  · rcases h : t.readPrimaryKey.run.run w with ⟨e | key, u⟩ <;> rw [h] at hread <;>
      exact Eq.symm hread

end Table

/-! ### Statements for a record's own row -/

section Spelled

variable {r : Row} {columns : List String} {values : List Value}

theorem Row.HasKey.pins_eq (hv : r.HasKey columns values) (hs : ∀ v ∈ values, v.items? = none) :
    Record.pinsText (columns.zip values) = Record.keyText columns ∧
      Record.pinsArgs (columns.zip values) = values := by
  have hsingle : ∀ c ∈ columns.zip values, c.2.items? = none :=
    fun c hc => hs c.2 (List.of_mem_zip hc).2
  constructor
  · have hkeys : (columns.zip values).map (·.1) = columns := hv.keys_zip
    rw [Record.pinsText_of_single hsingle, hkeys]
  · rw [Record.pinsArgs_of_single hsingle, List.map_snd_zip (Nat.le_of_eq hv.length_eq.symm)]

end Spelled

namespace World

/-- These statements were sent between two worlds, and no others. -/
def Sent (bs : List BoundSql) (w w' : World) : Prop :=
  w'.connection.sent = w.connection.sent ++ bs

end World

namespace Record

variable {α β : Type} {id : Nat} {r : Row} {t : Table} {w u : World} {columns : List String}
  {values : List Value}

/-- What follows may send nothing. -/
theorem sent_before {bs : List BoundSql} {a : Act α} {f : α → Act β}
    (ha : Keeps (World.Sent bs) a w)
    (hf : ∀ x v, Keeps (World.Reaches fun _ => False) (f x) v) :
    Keeps (World.Sent bs) (a >>= f) w :=
  ha.bind_of (fun x v _ => hf x v) (fun _ h => h) fun _ _ h hv => hv.sent_eq.trans h

/-- A change of rows sends its statement, whatever the driver answers. -/
theorem sent_change {q : Query} {d : Nat} (b : BoundSql) (hq : q.table.database = some d)
    (hd : d < w.databases.length) :
    Keeps (Function.onFun (World.Sent [b]) Prod.snd) (Query.change (.ok b)) (q, w) := by
  have hdb : w.databases[d]? = some w.databases[d] := List.getElem?_eq_getElem hd
  have hexecuted : Keeps (Function.onFun (World.Sent [b]) Prod.snd) (Query.execute b)
      ({ q with results := none }, w) := by
    rw [Keeps, run_execute (q := { q with results := none }) b hq hdb]
    split <;> rfl
  have hcounted : ((Query.change (.ok b)).run.run (q, w)).2 =
      ((Query.execute b).run.run ({ q with results := none }, w)).2 :=
    Reads.snd_run_bind (fun s v => .bind (reads_onWorld (reads_statement s v.2))
      fun _ _ => .pure _ v) (Query.execute b) ({ q with results := none }, w)
  unfold Keeps
  rw [hcounted]
  exact hexecuted

namespace Belongs

/-- With a key that is known in the end, a query for the own row is made from this key. -/
theorem run_selfQuery_of_known (h : Belongs id r t w) {f : Query → Act α} {key : List Value}
    (hf : ∀ q u, Keeps (World.Reaches fun _ => True) (f q) u)
    (hk : Keyed.find? ((selfQuery id >>= f).run.run w).2.primaryKeys t.id = some key) :
    ∃ u, Belongs id r t u ∧ World.Sent (t.keyQuestions w) w u ∧
      (selfQuery id).run.run w = (ownQuery r t key, u) := by
  obtain ⟨d, ht, hd⟩ := h.database
  have hsent := Table.primaryKey_sent ht hd
  have hdatabases := t.primaryKey_databases w
  have hkeep : Keeps (World.Reaches fun _ => True) t.primaryKey w :=
    keeps_primaryKey t fun _ => trivial
  rcases hp : t.primaryKey.run.run w with ⟨e | found, u⟩
  · have hself : (selfQuery id).run.run w = (.error e, u) := by rw [h.run_selfQuery, hp]
    rw [run_bind_of_error hself, Table.primaryKey_unknown hp] at hk
    contradiction
  · have hself : (selfQuery id).run.run w = (ownQuery r t found, u) := by rw [h.run_selfQuery, hp]
    have hstays : Keyed.find? ((selfQuery id >>= f).run.run w).2.primaryKeys t.id = some found := by
      rw [run_bind, hself]
      cases ownQuery r t found with
      | error e => exact primaryKey_known hp
      | ok q => exact (hf q u).keys _ _ (primaryKey_known hp)
    obtain rfl := Option.some.inj (hk.symm.trans hstays)
    rw [hp] at hsent hdatabases
    exact ⟨u, h.of_reaches (hkeep.of_run hp) hdatabases, hsent, hself⟩

/-- Without columns of a key there is no query for the own row. -/
theorem run_selfQuery_bind_of_nil (h : Belongs id r t w) {f : Query → Act α}
    (hf : ∀ q u, Keeps (World.Reaches fun _ => True) (f q) u)
    (hk : Keyed.find? ((selfQuery id >>= f).run.run w).2.primaryKeys t.id = some []) :
    ∃ u, (selfQuery id >>= f).run.run w = (.error (.database (.noPrimaryKey t.name)), u) ∧
      World.Sent (t.keyQuestions w) w u := by
  obtain ⟨u, -, hsent, hself⟩ := h.run_selfQuery_of_known hf hk
  exact ⟨u, run_bind_of_error hself f, hsent⟩

end Belongs

/-- A record that is not new, with a single value in each of some columns. -/
structure IsKeyed (id : Nat) (r : Row) (t : Table) (columns : List String) (values : List Value)
    (w : World) : Prop extends Belongs id r t w where
  known : r.isNew.isTruthy = false
  distinct : columns.Nodup
  hasKey : r.HasKey columns values
  single : ∀ v ∈ values, v.items? = none

namespace IsKeyed

/-- The query for the own row is made from the columns and the values of the key. -/
theorem ownQuery_eq (h : IsKeyed id r t columns values w) (hne : columns ≠ []) :
    ∃ c, pinned (columns.zip values) = .ok c ∧ ownQuery r t (columns.map .text) =
      .ok { table := t, options := { condition := some c } } := by
  have hkeys : (Keyed.keys (columns.zip values)).Nodup := by
    rw [h.hasKey.keys_zip]
    exact h.distinct
  have hsome : ∀ pin ∈ columns.zip values, pin.2.items? ≠ some [] := by
    intro pin hpin
    rw [h.single pin.2 (List.of_mem_zip hpin).2]
    exact nofun
  obtain ⟨c, hc⟩ := pinned_ok hsome
  refine ⟨c, hc, ownQuery_eq_ok.mpr ⟨?_, columns.zip values, c, h.hasKey.keyValues_eq, ?_, rfl⟩⟩
  · simpa using hne
  · rwa [Keyed.ofList_of_nodup hkeys]

/-- What is done with the query for the own row comes after the question for the key. -/
theorem sent_selfQuery_bind (h : IsKeyed id r t columns values w) (hne : columns ≠ [])
    {f : Query → Act α} {bs : List BoundSql}
    (hf : ∀ q u, Keeps (World.Reaches fun _ => True) (f q) u)
    (hk : Keyed.find? ((selfQuery id >>= f).run.run w).2.primaryKeys t.id =
      some (columns.map .text))
    (hrest : ∀ c u, pinned (columns.zip values) = .ok c → Belongs id r t u →
      Keeps (World.Sent bs) (f { table := t, options := { condition := some c } }) u) :
    Keeps (World.Sent (t.keyQuestions w ++ bs)) (selfQuery id >>= f) w := by
  obtain ⟨u, hu, hsent, hself⟩ := h.run_selfQuery_of_known hf hk
  obtain ⟨c, hc, hq⟩ := h.ownQuery_eq hne
  rw [hq] at hself
  have hlast := hrest c u hc hu
  unfold Keeps World.Sent at *
  rw [run_bind_of_ok hself, hlast, hsent, List.append_assoc]

end IsKeyed

/-! ### Deleting and saving -/

/-- What a deletion does with the query for the own row. -/
def erase (id : Nat) (q : Query) : Act Bool := do
  announce id "before_deleting" .beforeDeleting
  let success := decide (0 < (← runQuery q Query.delete))
  announce id "after_deleting" (.afterDeleting success)
  return success

/-- What a save of a record that is not new does with the query for the own row. -/
def overwrite (id : Nat) (q : Query) : Act Bool := do
  let r ← World.row id
  let values ← Act.ofFault r.asMapping
  let success := decide (0 < (← runQuery q (Query.update values)))
  announce id "after_saving" (.afterSaving success)
  return success

theorem keeps_erase (id : Nat) (q : Query) (w : World) :
    Keeps (World.Reaches fun _ => True) (erase id q) w := by
  refine .bind (keeps_announce id _ _ w) fun _ u _ => ?_
  refine .bind (keeps_runQuery (.bind_reads rfl fun x _ => ?_)) fun n v _ => ?_
  · exact keeps_change (fun b _ => .admits fun _ => trivial) (q, u)
  · exact .bind (keeps_announce id _ _ v) fun _ z _ => .pure _ z

theorem keeps_overwrite (id : Nat) (q : Query) (w : World) :
    Keeps (World.Reaches fun _ => True) (overwrite id q) w := by
  refine .bind_reads (reads_row id w) fun r _ => ?_
  refine .bind_reads (reads_ofFault _ w) fun values _ => ?_
  refine .bind (keeps_runQuery (.bind_reads rfl fun x _ => ?_)) fun n v _ => ?_
  · exact keeps_change (fun b _ => .admits fun _ => trivial) (q, w)
  · exact .bind (keeps_announce id _ _ v) fun _ z _ => .pure _ z

/-- What is announced after a call sends nothing. -/
theorem keeps_announced (id : Nat) (name : String) (e : Event) (success : Bool) (w : World) :
    Keeps (World.Reaches fun _ => False) (do announce id name e; return success) w :=
  .bind (keeps_announce id name e w) fun _ u _ => .pure _ u

namespace Belongs

theorem run_delete (h : Belongs id r t w) (hn : r.isNew.isTruthy = false) :
    (delete id).run.run w = (selfQuery id >>= erase id).run.run w := by
  have hdelete : "delete" ∈ r.model.functions :=
    h.intact.mem_functions (by simp [Model.recordFunctions])
  rw [delete, run_bind_of_ok (h.run_calling hdelete), hn]
  rfl

/-- A save inserts a new record and updates any other, after it was announced. -/
theorem run_save (h : Belongs id r t w) : ∃ events, (save id).run.run w =
    ((if r.isNew.isTruthy then insert id t else update id) >>= fun success => do
      announce id "after_saving" (.afterSaving success)
      return success).run.run { w with events := events } := by
  have hsave : "save" ∈ r.model.functions :=
    h.intact.mem_functions (by simp [Model.recordFunctions])
  obtain ⟨events, hannounce⟩ :=
    h.run_announce (by simp [Model.hookFunctions] : "before_saving" ∈ _) .beforeSaving
  have hrow : (World.row id).run.run { w with events := events } =
      (.ok r, { w with events := events }) := run_row_eq_ok.mpr ⟨h.row, rfl⟩
  refine ⟨events, ?_⟩
  rw [save, run_bind_of_ok (h.run_calling hsave), run_bind_of_ok h.run_owner,
    run_bind_of_ok hannounce, run_bind_of_ok hrow]
  cases r.isNew.isTruthy <;> rfl

theorem run_save_known (h : Belongs id r t w) (hn : r.isNew.isTruthy = false) :
    ∃ events, (save id).run.run w =
      (selfQuery id >>= overwrite id).run.run { w with events := events } := by
  obtain ⟨events, hrun⟩ := h.run_save
  refine ⟨events, ?_⟩
  rw [hrun, hn]
  simp only [Bool.false_eq_true, ↓reduceIte, update, bind_assoc, pure_bind]
  rfl

theorem sent_erase (h : Belongs id r t w) {c : Condition} {key : List (String × Value)}
    (hc : pinned key = .ok c) : Keeps (World.Sent [t.deletion key])
      (erase id { table := t, options := { condition := some c } }) w := by
  obtain ⟨d, ht, hd⟩ := h.database
  obtain ⟨events, hannounce⟩ :=
    h.run_announce (by simp [Model.hookFunctions] : "before_deleting" ∈ _) .beforeDeleting
  have hsent : Keeps (World.Sent [t.deletion key]) (do
      let success := decide (0 < (← runQuery { table := t, options := { condition := some c } }
        Query.delete))
      announce id "after_deleting" (.afterDeleting success)
      return success) { w with events := events } := by
    refine sent_before (keeps_runQuery ?_) fun n v => keeps_announced id _ _ _ v
    rw [Keeps, RowQuery.run_delete, Table.delete_pinned hc]
    exact sent_change _ ht hd
  rw [Keeps, erase, run_bind_of_ok hannounce]
  exact hsent

theorem sent_overwrite (h : Belongs id r t w) {c : Condition} {key : List (String × Value)}
    {assigned : String × List Value} (hc : pinned key = .ok c)
    (ha : Sql.assignments r.toValue = .ok assigned) :
    Keeps (World.Sent [t.updating assigned key])
      (overwrite id { table := t, options := { condition := some c } }) w := by
  obtain ⟨d, ht, hd⟩ := h.database
  have hvalues : (Act.ofFault r.asMapping).run.run w = (.ok r.toValue, w) := by
    rw [run_ofFault, h.intact.asMapping_eq]
    rfl
  rw [Keeps, overwrite, run_bind_of_ok (run_row_eq_ok.mpr ⟨h.row, rfl⟩), run_bind_of_ok hvalues]
  refine sent_before (keeps_runQuery ?_) fun n v => keeps_announced id _ _ _ v
  rw [Keeps, run_update, Table.update_pinned hc, ha]
  exact sent_change _ ht hd

/-- Without a key a record is neither updated nor deleted. -/
theorem no_key (h : Belongs id r t w) (hn : r.isNew.isTruthy = false) (call : Call)
    (hk : Keyed.find? ((call.run id).run.run w).2.primaryKeys t.id = some []) :
    ((call.run id).run.run w).1 = .error (.database (.noPrimaryKey t.name)) ∧
      World.Sent (t.keyQuestions w) w ((call.run id).run.run w).2 := by
  cases call with
  | save =>
    obtain ⟨events, hrun⟩ := h.run_save_known hn
    rw [Call.run, hrun] at hk ⊢
    obtain ⟨v, hfailed, hsent⟩ := (h.announced events).run_selfQuery_bind_of_nil (keeps_overwrite id) hk
    rw [hfailed]
    exact ⟨rfl, hsent⟩
  | delete =>
    rw [Call.run, h.run_delete hn] at hk ⊢
    obtain ⟨v, hfailed, hsent⟩ := h.run_selfQuery_bind_of_nil (keeps_erase id) hk
    rw [hfailed]
    exact ⟨rfl, hsent⟩

end Belongs

namespace IsKeyed

theorem sent_delete (h : IsKeyed id r t columns values w) (hne : columns ≠ [])
    (hk : Keyed.find? ((delete id).run.run w).2.primaryKeys t.id = some (columns.map .text)) :
    World.Sent (t.keyQuestions w ++
      [⟨"DELETE FROM " ++ Sql.quote t.name ++ " WHERE " ++ keyText columns, values⟩]) w
      ((delete id).run.run w).2 := by
  obtain ⟨htext, hargs⟩ := h.hasKey.pins_eq h.single
  rw [h.run_delete h.known] at hk ⊢
  have hsent := h.sent_selfQuery_bind hne (keeps_erase id) hk fun c u hc hu => hu.sent_erase hc
  rw [Table.deletion, htext, hargs] at hsent
  exact hsent

theorem sent_save (h : IsKeyed id r t columns values w) (hne : columns ≠ [])
    (hk : Keyed.find? ((save id).run.run w).2.primaryKeys t.id = some (columns.map .text))
    (hr : r.toColumns ≠ []) (hnames : ∀ c ∈ r.toColumns, c.1 ≠ "") :
    World.Sent (t.keyQuestions w ++
      [⟨"UPDATE " ++ Sql.quote t.name ++ " SET " ++
          Text.join ", " (r.toColumns.map fun c => Sql.quote c.1 ++ " = ?") ++
          " WHERE " ++ keyText columns,
        r.toColumns.map (·.2.plain) ++ values⟩]) w ((save id).run.run w).2 := by
  obtain ⟨htext, hargs⟩ := h.hasKey.pins_eq h.single
  obtain ⟨events, hrun⟩ := h.run_save_known h.known
  have hu : IsKeyed id r t columns values { w with events := events } :=
    ⟨h.announced events, h.known, h.distinct, h.hasKey, h.single⟩
  rw [hrun] at hk ⊢
  have hsent := hu.sent_selfQuery_bind hne (keeps_overwrite id) hk fun c u hc hu =>
    hu.sent_overwrite hc (Sql.assignments_plainMap hr hnames)
  rw [Table.updating, htext, hargs] at hsent
  exact hsent

end IsKeyed

/-- The writes of a record are pinned to its primary key. No call sends an update or a deletion that
is not, whatever the driver answers. A record that is not new and has no key fails to be saved and
deleted, and one with a key sends the question for it, when it is not known yet, and then the one
statement that its columns and values spell. -/
theorem writes_pinned (id : Nat) (w : World) :
    (∀ call : Call, ∃ xs, w.connection.Exchanges xs ((call.run id).run.run w).2.connection ∧
      ∀ x ∈ xs, x.Writes → x.statement.IsPinned id ((call.run id).run.run w).2) ∧
    (∀ r t, Belongs id r t w → r.isNew.isTruthy = false → ∀ call : Call,
      Keyed.find? ((call.run id).run.run w).2.primaryKeys t.id = some [] →
        ((call.run id).run.run w).1 = .error (.database (.noPrimaryKey t.name)) ∧
          World.Sent (t.keyQuestions w) w ((call.run id).run.run w).2) ∧
    ∀ r t columns values, IsKeyed id r t columns values w → columns ≠ [] →
      (Keyed.find? ((delete id).run.run w).2.primaryKeys t.id = some (columns.map .text) →
        World.Sent (t.keyQuestions w ++
          [⟨"DELETE FROM " ++ Sql.quote t.name ++ " WHERE " ++ keyText columns, values⟩]) w
          ((delete id).run.run w).2) ∧
      (Keyed.find? ((save id).run.run w).2.primaryKeys t.id = some (columns.map .text) →
        r.toColumns ≠ [] → (∀ c ∈ r.toColumns, c.1 ≠ "") →
        World.Sent (t.keyQuestions w ++
          [⟨"UPDATE " ++ Sql.quote t.name ++ " SET " ++
              Text.join ", " (r.toColumns.map fun c => Sql.quote c.1 ++ " = ?") ++
              " WHERE " ++ keyText columns,
            r.toColumns.map (·.2.plain) ++ values⟩]) w ((save id).run.run w).2) :=
  ⟨fun call => pins_call call id w, fun _ _ h hn call hk => h.no_key hn call hk,
    fun _ _ _ _ h hne => ⟨h.sent_delete hne, h.sent_save hne⟩⟩

/-- A row of a table with quotes and question marks in its names, and the columns that the driver
gives for its key. -/
def quotedRow (key : List String) : World where
  connection := { queue := [.result ["COLUMN_NAME"] (key.map fun c => [.text c]) 0 .null] }
  databases := [{ name := "shop" }]
  rows := [{
    model := .record
    fields := []
    extras := [("a`b", .int 1), ("c'?", .text "x"), ("n", .null)]
    given := []
    owner := some (.table ⟨0, "or`ders?", some 0⟩)
    isNew := .bool false }]
  nextTable := 1

theorem quotedRow_isKeyed (key : List String) : ∃ r, IsKeyed 0 r ⟨0, "or`ders?", some 0⟩
    ["a`b", "c'?"] [.int 1, .text "x"] (quotedRow key) ∧
      r.toColumns = [("a`b", .int 1), ("c'?", .text "x"), ("n", .null)] := by
  refine ⟨_, ⟨⟨rfl, ⟨rfl, ?_⟩, rfl, 0, rfl, Nat.one_pos⟩, rfl, by decide, ?_, ?_⟩, rfl⟩
  · exact fun _ _ => rfl
  · exact .cons rfl (.cons rfl .nil)
  · simp [Value.items?]

/-- Columns that compare equal to texts are these texts. -/
theorem texts_of_beq {key : List Value} (h : (key == columns.map .text) = true) :
    key = columns.map .text := by
  induction key generalizing columns with
  | nil =>
    cases columns with
    | nil => rfl
    | cons c cs => contradiction
  | cons v vs ih =>
    cases columns with
    | nil => contradiction
    | cons c cs =>
      obtain ⟨hv, hvs⟩ := Bool.and_eq_true_iff.mp h
      rw [ih hvs, List.map_cons]
      cases v with
      | text s =>
        have hs : (s == c) = true := hv
        rw [beq_iff_eq.mp hs]
      | _ => contradiction

theorem known_of_beq {key : Option (List Value)} (h : (key == some (columns.map .text)) = true) :
    key = some (columns.map .text) := by
  cases key with
  | none => contradiction
  | some vs => rw [texts_of_beq h]

/-- The names of the table and of its columns are quoted wherever they stand. -/
theorem quotedRow_pinned :
    (∃ xs, (quotedRow ["a`b", "c'?"]).connection.Exchanges xs
      ((Call.delete.run 0).run.run (quotedRow ["a`b", "c'?"])).2.connection ∧
        ∀ x ∈ xs, x.Writes → x.statement.IsPinned 0
          ((Call.delete.run 0).run.run (quotedRow ["a`b", "c'?"])).2) ∧
    ((Call.save.run 0).run.run (quotedRow [])).1 =
      .error (.database (.noPrimaryKey "or`ders?")) ∧
    World.Sent [⟨Table.primaryKeySql, [.text "or`ders?"]⟩,
        ⟨"DELETE FROM `or``ders?` WHERE ( `a``b` = ? && `c'?` = ? )", [.int 1, .text "x"]⟩]
      (quotedRow ["a`b", "c'?"]) ((delete 0).run.run (quotedRow ["a`b", "c'?"])).2 ∧
    World.Sent [⟨Table.primaryKeySql, [.text "or`ders?"]⟩,
        ⟨"UPDATE `or``ders?` SET `a``b` = ?, `c'?` = ?, `n` = ? WHERE ( `a``b` = ? && `c'?` = ? )",
          [.int 1, .text "x", .null, .int 1, .text "x"]⟩]
      (quotedRow ["a`b", "c'?"]) ((save 0).run.run (quotedRow ["a`b", "c'?"])).2 := by
  obtain ⟨r, hr, hcolumns⟩ := quotedRow_isKeyed ["a`b", "c'?"]
  obtain ⟨s, hs, -⟩ := quotedRow_isKeyed []
  obtain ⟨hpinned, -, hsent⟩ := writes_pinned 0 (quotedRow ["a`b", "c'?"])
  obtain ⟨hdelete, hsave⟩ := hsent r _ _ _ hr (by simp)
  have hunknown : Keyed.find? ((Call.save.run 0).run.run (quotedRow [])).2.primaryKeys 0 =
      some (([] : List String).map .text) := known_of_beq (by decide +kernel)
  have hfailed := (writes_pinned 0 (quotedRow [])).2.1 s _ hs.toBelongs hs.known .save hunknown
  have hdeleted := hdelete (known_of_beq (by decide +kernel))
  have hdeletion : "DELETE FROM " ++ Sql.quote "or`ders?" ++ " WHERE " ++ keyText ["a`b", "c'?"] =
      "DELETE FROM `or``ders?` WHERE ( `a``b` = ? && `c'?` = ? )" := by decide +kernel
  rw [hdeletion] at hdeleted
  have hupdated := hsave (known_of_beq (by decide +kernel)) (by simp [hcolumns])
    (by rw [hcolumns]; decide)
  have hupdate : "UPDATE " ++ Sql.quote "or`ders?" ++ " SET " ++ Text.join ", "
      ([("a`b", .int 1), ("c'?", .text "x"), ("n", .null)].map
        fun (c : String × Value) => Sql.quote c.1 ++ " = ?") ++
      " WHERE " ++ keyText ["a`b", "c'?"] =
      "UPDATE `or``ders?` SET `a``b` = ?, `c'?` = ?, `n` = ? WHERE ( `a``b` = ? && `c'?` = ? )" := by
    decide +kernel
  rw [hcolumns, hupdate] at hupdated
  exact ⟨hpinned .delete, hfailed.1, hdeleted, hupdated⟩

end Record

end RowQuery

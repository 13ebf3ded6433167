import RowQuery.Proofs.Insertion
import RowQuery.Proofs.KeyCondition

/-! Which rows the writes of a record touch. A record that is not new is updated and deleted through
a query for its own row, which asks for the key of its table and holds one condition per column of
it. So no call sends an update or a deletion that is not pinned to the key, whatever the driver
answers. -/

namespace RowQuery

open Running

namespace Exchange

/-- The statement updates or deletes rows. -/
def Writes (x : Exchange) : Prop :=
  "UPDATE ".toList <+: x.statement.sql.toList ∨ "DELETE ".toList <+: x.statement.sql.toList

/-- A statement of another kind starts with another letter. -/
theorem not_writes {x : Exchange} {c : Char} (h : x.statement.sql.toList.head? = some c)
    (hu : c ≠ 'U') (hd : c ≠ 'D') : ¬ x.Writes := by
  rintro (hx | hx)
  · rw [head_of_begins hx (head_ofList 'U' _)] at h
    exact hu (Option.some.inj h).symm
  · rw [head_of_begins hx (head_ofList 'D' _)] at h
    exact hd (Option.some.inj h).symm

theorem key_not_writes (name : String) (o : Outcome) :
    ¬ Writes ⟨⟨Table.primaryKeySql, [.text name]⟩, o⟩ :=
  not_writes Table.primaryKeySql_head (by decide) (by decide)

theorem lastInsert_not_writes (o : Outcome) : ¬ Writes ⟨⟨Database.lastInsertSql, []⟩, o⟩ :=
  not_writes Database.lastInsertSql_head (by decide) (by decide)

theorem insert_not_writes {table : String} {values : Value} {b : BoundSql}
    (h : Sql.insert table values = .ok b) (o : Outcome) : ¬ Writes ⟨b, o⟩ :=
  not_writes (Sql.insert_letter h) (by decide) (by decide)

end Exchange

/-! ### The query for a record's own row -/

/-- The columns that pin a row: those of its table's key, with the values of the row. -/
def Row.Pins (r : Row) (w : World) (t : Table) (pins : List (String × Value)) : Prop :=
  r.owner = some (.table t) ∧ ∃ key pairs, Keyed.find? w.primaryKeys t.id = some key ∧ key ≠ [] ∧
    r.keyValues key = .ok pairs ∧ pins = Keyed.ofList pairs

namespace Record

/-- The query for the row that has the key of a record. -/
def ownQuery (r : Row) (t : Table) (key : List Value) : Except Error Query :=
  if key.isEmpty then .error (.database (.noPrimaryKey t.name))
  else do
    let pairs ← (r.keyValues key).mapError .fault
    let c ← (pinned (Keyed.ofList pairs)).mapError ArgumentError.toError
    return { table := t, options := { condition := some c } }

theorem create_pinned {key : List (String × Value)} {c : Condition} (h : pinned key = .ok c)
    (t : Table) : Query.create t [.condition c] =
      .ok { table := t, options := { condition := some c } } := by
  have hr := render_pinned h
  cases c with
  | stray v => cases hr
  | _ => rfl

theorem ownQuery_eq_ok {r : Row} {t : Table} {key : List Value} {q : Query} :
    ownQuery r t key = .ok q ↔ key ≠ [] ∧ ∃ pairs c, r.keyValues key = .ok pairs ∧
      pinned (Keyed.ofList pairs) = .ok c ∧
      q = { table := t, options := { condition := some c } } := by
  unfold ownQuery
  cases key with
  | nil => simp
  | cons column key =>
    simp only [List.isEmpty_cons, Bool.false_eq_true, ↓reduceIte, ne_eq, reduceCtorEq,
      not_false_eq_true, true_and]
    constructor
    · intro h
      obtain ⟨pairs, hp, h⟩ := Result.bind_eq_ok.mp h
      obtain ⟨c, hc, h⟩ := Result.bind_eq_ok.mp h
      exact ⟨pairs, c, Result.mapError_eq_ok.mp hp, Result.mapError_eq_ok.mp hc,
        (Except.ok.inj h).symm⟩
    · rintro ⟨pairs, c, hp, hc, rfl⟩
      rw [hp, Result.ok_mapError, Result.ok_bind, hc]
      rfl

variable {id : Nat} {w u : World} {r : Row} {t : Table}

/-- What is asked of the record, its table and its key before the query is made. -/
theorem primaryKeyValues_eq_ok {pins : Option (List (String × Value))}
    (h : (primaryKeyValues id).run.run w = (.ok pins, u)) : ∃ r t key,
      w.rows[id]? = some r ∧ r.owner = some (.table t) ∧ t.primaryKey.run.run w = (.ok key, u) ∧
        if key.isEmpty then pins = none
        else ∃ pairs, r.keyValues key = .ok pairs ∧ pins = some (Keyed.ofList pairs) := by
  obtain ⟨_, -, h⟩ := (reads_calling id _ w).run_bind_eq_ok.mp h
  obtain ⟨o, ho, h⟩ := (reads_owner id w).run_bind_eq_ok.mp h
  obtain ⟨r, hr, hrt⟩ := owner_eq_ok ho
  obtain ⟨t, ht, h⟩ := (reads_tableOf o w).run_bind_eq_ok.mp h
  rw [tableOf_eq_ok ht] at hrt
  obtain ⟨key, v, hk, h⟩ := run_bind_eq_ok.mp h
  have hkeep : Keeps (World.Reaches fun _ => True) t.primaryKey w :=
    keeps_primaryKey t fun _ => trivial
  refine ⟨r, t, key, hr, hrt, ?_⟩
  split_ifs at h ⊢ with he
  · obtain ⟨hp, rfl⟩ := Prod.mk.inj h
    exact ⟨hk, (Except.ok.inj hp).symm⟩
  · obtain ⟨r', hr', h⟩ := (reads_row id v).run_bind_eq_ok.mp h
    obtain rfl : r = r' :=
      Option.some.inj (((hkeep.of_run hk).row_eq hr).symm.trans (run_row_eq_ok.mp hr').1)
    obtain ⟨pairs, hp, h⟩ := run_ofExcept_bind_eq_ok.mp h
    obtain ⟨hpins, rfl⟩ := Prod.mk.inj h
    exact ⟨hk, pairs, Result.mapError_eq_ok.mp hp, (Except.ok.inj hpins).symm⟩

/-- A query that is made for a record's own row is the one of its table's key. -/
theorem selfQuery_eq_ok {q : Query} (h : (selfQuery id).run.run w = (.ok q, u)) : ∃ r t key,
    w.rows[id]? = some r ∧ r.owner = some (.table t) ∧ t.primaryKey.run.run w = (.ok key, u) ∧
      ownQuery r t key = .ok q := by
  obtain ⟨_, -, h⟩ := (reads_calling id _ w).run_bind_eq_ok.mp h
  obtain ⟨o, ho, h⟩ := (reads_owner id w).run_bind_eq_ok.mp h
  obtain ⟨r, hr, hrt⟩ := owner_eq_ok ho
  obtain ⟨pins, v, hp, h⟩ := run_bind_eq_ok.mp h
  obtain ⟨r', t, key, hr', hrt', hk, hpins⟩ := primaryKeyValues_eq_ok hp
  obtain rfl := Option.some.inj (hr.symm.trans hr')
  obtain rfl := Option.some.inj (hrt.symm.trans hrt')
  refine ⟨r, t, key, hr, hrt, ?_⟩
  cases pins with
  | none =>
    obtain ⟨_, _, h⟩ := (reads_tableOf _ v).run_bind_eq_ok.mp h
    cases h
  | some pins =>
    split_ifs at hpins with he
    obtain ⟨pairs, hpairs, hpins⟩ := hpins
    obtain rfl := Option.some.inj hpins
    obtain ⟨c, hc, h⟩ := run_ofExcept_bind_eq_ok.mp h
    have hpinned := Result.mapError_eq_ok.mp hc
    obtain ⟨t', ht', h⟩ := (reads_tableOf _ v).run_bind_eq_ok.mp h
    obtain rfl := Owner.table.inj (tableOf_eq_ok ht')
    rw [run_ofExcept, create_pinned hpinned] at h
    obtain ⟨hq, rfl⟩ := Prod.mk.inj h
    refine ⟨hk, ownQuery_eq_ok.mpr ⟨?_, pairs, c, hpairs, hpinned, ?_⟩⟩
    · simpa using he
    · exact (Except.ok.inj hq).symm

end Record

/-! ### Pinned statements -/

/-- The statement deletes or updates the row that has the key of a record in this world. -/
def BoundSql.IsPinned (id : Nat) (w : World) (b : BoundSql) : Prop :=
  ∃ r t pins, w.rows[id]? = some r ∧ r.Pins w t pins ∧
    (b = t.deletion pins ∨ ∃ values assigned, r.asMapping = .ok values ∧
      Sql.assignments values = .ok assigned ∧ b = t.updating assigned pins)

theorem BoundSql.IsPinned.reaches {Q : Exchange → Prop} {id : Nat} {b : BoundSql} {w u : World}
    (h : b.IsPinned id w) (hu : World.Reaches Q w u) : b.IsPinned id u := by
  obtain ⟨r, t, pins, hr, ⟨ho, key, pairs, hk, hpins⟩, hb⟩ := h
  exact ⟨r, t, pins, hu.row_eq hr, ⟨ho, key, pairs, hu.keys _ _ hk, hpins⟩, hb⟩

namespace World

/-- Every update and every deletion that was sent between two worlds is pinned to the key that the
record has in the second one. -/
def Pins (id : Nat) (w w' : World) : Prop :=
  Sends (fun x => x.Writes → x.statement.IsPinned id w') w w'

namespace Pins

variable {Q : Exchange → Prop} {id : Nat} {u v w : World}

theorem of_quiet (h : Sends (fun x => ¬ x.Writes) v w) : Pins id v w := by
  obtain ⟨xs, hxs, hx⟩ := h
  exact ⟨xs, hxs, fun x hmem hw => absurd hw (hx x hmem)⟩

instance : Std.Refl (Pins id) := ⟨fun w => of_quiet (Std.Refl.refl w)⟩

/-- What is sent may be pinned from the start. -/
theorem of_pinned (h : Reaches Q v w) (hQ : ∀ x, Q x → x.statement.IsPinned id v) :
    Pins id v w := by
  obtain ⟨xs, hxs, hx⟩ := h.exchanges
  exact ⟨xs, hxs, fun x hmem _ => (hQ x (hx x hmem)).reaches h⟩

theorem after_quiet (h : Sends (fun x => ¬ x.Writes) u v) (hp : Pins id v w) : Pins id u w := by
  have hquiet : Sends (fun x => x.Writes → x.statement.IsPinned id w) u v := by
    obtain ⟨xs, hxs, hx⟩ := h
    exact ⟨xs, hxs, fun x hmem hw => absurd hw (hx x hmem)⟩
  exact trans_of (Sends _) hquiet hp

theorem before_quiet (hp : Pins id u v) (h : Reaches (fun x => ¬ x.Writes) v w) :
    Pins id u w := by
  have hstays : Sends (fun x => x.Writes → x.statement.IsPinned id w) u v := by
    obtain ⟨xs, hxs, hx⟩ := hp
    exact ⟨xs, hxs, fun x hmem hw => (hx x hmem hw).reaches h⟩
  exact trans_of (Sends _) hstays (of_quiet h.sends)

end Pins

end World

namespace Record

section Pins

variable {α β : Type} {id : Nat} {w : World} {a : Act α} {f : α → Act β}

theorem pins_after (ha : Keeps (World.Sends fun x => ¬ x.Writes) a w)
    (hf : ∀ x u, a.run.run w = (.ok x, u) → Keeps (World.Pins id) (f x) u) :
    Keeps (World.Pins id) (a >>= f) w :=
  ha.bind_of hf (fun _ => .of_quiet) fun _ _ h hp => hp.after_quiet h

theorem pins_before (ha : Keeps (World.Pins id) a w)
    (hf : ∀ x u, Keeps (World.Reaches fun x => ¬ x.Writes) (f x) u) :
    Keeps (World.Pins id) (a >>= f) w :=
  ha.bind_of (fun x u _ => hf x u) (fun _ h => h) fun _ _ hp h => hp.before_quiet h

/-- A query for a record's own row pins what is then sent with its options. -/
theorem pins_of_ownQuery {q : Query} {u : World} (h : (selfQuery id).run.run w = (.ok q, u)) :
    ∃ r t pins c, u.rows[id]? = some r ∧ r.Pins u t pins ∧ pinned pins = .ok c ∧
      q = { table := t, options := { condition := some c } } := by
  obtain ⟨r, t, key, hr, ho, hk, hq⟩ := selfQuery_eq_ok h
  obtain ⟨hne, pairs, c, hp, hc, rfl⟩ := ownQuery_eq_ok.mp hq
  have hkeep : Keeps (World.Reaches fun _ => True) t.primaryKey w :=
    keeps_primaryKey t fun _ => trivial
  exact ⟨r, t, _, c, (hkeep.of_run hk).row_eq hr,
    ⟨ho, key, pairs, primaryKey_known hk, hne, hp, rfl⟩, hc, rfl⟩

theorem pins_update (id : Nat) (w : World) : Keeps (World.Pins id) (update id) w := by
  have hself : Keeps (World.Reaches fun x => ¬ x.Writes) (selfQuery id) w :=
    keeps_selfQuery Exchange.key_not_writes id w
  refine pins_after (hself.mono fun _ h => h.sends) fun q u hq => ?_
  obtain ⟨r, t, pins, c, hr, hpins, hc, rfl⟩ := pins_of_ownQuery hq
  refine .bind_reads (reads_row id u) fun r' hr' => ?_
  obtain rfl : r = r' := Option.some.inj (hr.symm.trans (run_row_eq_ok.mp hr').1)
  refine .bind_reads (reads_ofFault _ u) fun values hv => ?_
  have hvalues : r.asMapping = .ok values := Result.mapError_eq_ok.mp (Prod.mk.inj hv).1
  refine pins_before ?_ fun n v => .pure _ v
  refine (keeps_runQuery (R := World.Reaches fun x =>
    Sql.update t.name { condition := some c } values = .ok x.statement) ?_).mono
      fun v hv => .of_pinned hv fun x hx => ?_
  · refine .bind_reads rfl fun x hx => ?_
    obtain rfl := Except.ok.inj (Prod.mk.inj hx).1
    exact keeps_change (fun b hb => .admits fun _ => hb) _
  · rw [Table.update_pinned hc, Result.mapError_eq_ok, Result.map_eq_ok] at hx
    obtain ⟨assigned, ha, hx⟩ := hx
    exact ⟨r, t, pins, hr, hpins, .inr ⟨values, assigned, hvalues, ha, hx.symm⟩⟩

theorem pins_delete (id : Nat) (w : World) : Keeps (World.Pins id) (delete id) w := by
  have hself : Keeps (World.Reaches fun x => ¬ x.Writes) (selfQuery id) w :=
    keeps_selfQuery Exchange.key_not_writes id w
  refine .bind_reads (reads_calling id _ w) fun r _ => ?_
  split_ifs
  · exact .pure _ w
  · refine pins_after (hself.mono fun _ h => h.sends) fun q u hq => ?_
    obtain ⟨r, t, pins, c, hr, hpins, hc, rfl⟩ := pins_of_ownQuery hq
    have hbefore : Keeps (World.Reaches fun x => ¬ x.Writes)
        (announce id "before_deleting" .beforeDeleting) u := keeps_announce id _ _ u
    refine pins_after (hbefore.mono fun _ h => h.sends) fun _ v hv => ?_
    have hreach := hbefore.of_run hv
    refine pins_before ?_ fun n t => .bind (keeps_announce id _ _ t) fun _ s _ => .pure _ s
    refine (keeps_runQuery (R := World.Reaches fun x =>
      Sql.delete t.name { condition := some c } = .ok x.statement) ?_).mono
        fun z hz => .of_pinned hz fun x hx => ?_
    · refine .bind_reads rfl fun x hx => ?_
      obtain rfl := Except.ok.inj (Prod.mk.inj hx).1
      exact keeps_change (fun b hb => .admits fun _ => hb) _
    · rw [Table.delete_pinned hc] at hx
      have hb : x.statement.IsPinned id u :=
        ⟨r, t, pins, hr, hpins, .inl (Except.ok.inj hx).symm⟩
      exact hb.reaches hreach

theorem pins_save (id : Nat) (w : World) : Keeps (World.Pins id) (save id) w := by
  have hbefore : Keeps (World.Reaches fun x => ¬ x.Writes)
      (announce id "before_saving" .beforeSaving) w := keeps_announce id _ _ w
  have hafter : ∀ success u, Keeps (World.Reaches fun x => ¬ x.Writes) (do
      announce id "after_saving" (.afterSaving success)
      return success : Act Bool) u :=
    fun success u => .bind (keeps_announce id _ _ u) fun _ v _ => .pure _ v
  refine .bind_reads (reads_calling id _ w) fun _ _ => ?_
  refine .bind_reads (reads_owner id w) fun o _ => ?_
  refine pins_after (hbefore.mono fun _ h => h.sends) fun _ u _ => ?_
  refine .bind_reads (reads_row id u) fun r _ => ?_
  split_ifs
  · refine .bind_reads (reads_tableOf o u) fun t _ => ?_
    have hinsert : Keeps (World.Sends fun x => ¬ x.Writes) (insert id t) u :=
      keeps_insert sends_setRow (fun _ _ h => h.sends) Exchange.lastInsert_not_writes
        Exchange.key_not_writes (fun _ _ _ o h => Exchange.insert_not_writes h o) id t u
    exact pins_before (hinsert.mono fun _ => .of_quiet) hafter
  · exact pins_before (pins_update id u) hafter

theorem pins_call (call : Call) (id : Nat) (w : World) : Keeps (World.Pins id) (call.run id) w := by
  cases call with
  | save => exact pins_save id w
  | delete => exact pins_delete id w

end Pins

end Record

end RowQuery

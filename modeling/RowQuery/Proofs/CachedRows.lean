import RowQuery.Proofs.Configuring
import RowQuery.Proofs.Exchange
import Mathlib.Data.List.Induction

/-! Rows that a query keeps. A fetch keeps the rows it read, a change of rows forgets them before it
is sent, and what sends nothing is answered from them. Settings leave them as they are, so the
options at such an answer are those of the fetch with every setting that was made since. -/

namespace RowQuery.Query

open Running

/-! ### Calls -/

/-- A call on a query, with its arguments. -/
inductive Call
  | configure (s : Options.Setting)
  | fetch (columns : Value)
  | count
  | pluck (key : Value)
  | update (values : Value)
  | updateColumn (column value : Value)
  | delete

namespace Call

def run : Call → QueryAct Unit
  | .configure s => Query.configure s.edit
  | .fetch columns => do let _ ← Query.fetch columns
  | .count => do let _ ← Query.count
  | .pluck key => do let _ ← Query.pluck key
  | .update values => do let _ ← Query.update values
  | .updateColumn column value => do let _ ← Query.updateColumn column value
  | .delete => do let _ ← Query.delete

def setting? : Call → Option Options.Setting
  | .configure s => some s
  | _ => none

/-- The call reads rows in this state, and these are their numbers: a fetch does, and so does a
pluck when no rows are kept. -/
inductive Fetches : Call → Query × World → List Nat → Prop
  | fetch {columns : Value} {p u : Query × World} {ids : List Nat}
    (h : (Query.fetch columns).run.run p = (.ok ids, u)) : Fetches (.fetch columns) p ids
  | pluck {key : Value} {p u : Query × World} {ids : List Nat} (hn : p.1.results = none)
    (h : Query.fetch.run.run p = (.ok ids, u)) : Fetches (.pluck key) p ids

end Call

/-- The settings among some calls. -/
def settingsOf (calls : List Call) : List Options.Setting := calls.filterMap Call.setting?

/-- A query and its world after some calls, whether they fail or not. -/
def after (calls : List Call) (p : Query × World) : Query × World :=
  calls.foldl (fun p call => (call.run.run.run p).2) p

theorem after_concat (calls : List Call) (call : Call) (p : Query × World) :
    after (calls ++ [call]) p = (call.run.run.run (after calls p)).2 := by
  rw [after, List.foldl_append]
  rfl

/-! ### What calls do to the query -/

/-- The query stays what it is, whatever happens to the world. -/
abbrev SameQuery : Query × World → Query × World → Prop := Function.onFun Eq Prod.fst

variable {α : Type} {p u : Query × World}

theorem same_onWorld (a : Act α) (p : Query × World) : Keeps SameQuery (onWorld a) p := rfl

theorem same_execute (b : BoundSql) (p : Query × World) :
    Keeps SameQuery (execute b) p := by
  refine .bind_reads rfl fun x _ => ?_
  split
  · exact .throw _ p
  · exact same_onWorld _ p

/-- The rows that a fetch reads, before they are kept. -/
def selected (columns : Value) : QueryAct (List Nat) := do
  let q := (← get).1
  let b ← onWorld (Act.ofExcept (Sql.select q.table.name q.options columns))
  let s ← execute b
  match columns with
  | .null => onWorld do Statement.fetchAll s (.model (← q.table.model)) (some q.table)
  | _ => onWorld (Statement.fetchAll s (.model .result) none)

theorem fetch_eq (columns : Value) : fetch columns = (do
    let ids ← selected columns
    setResults (some ids)
    return ids) := by
  cases columns <;> simp only [fetch, selected, bind_assoc]

theorem same_selected (columns : Value) (p : Query × World) : Keeps SameQuery (selected columns) p := by
  refine .bind_reads rfl fun x _ => ?_
  refine .bind (same_onWorld _ p) fun b u _ => ?_
  refine .bind (same_execute b u) fun s v _ => ?_
  split <;> exact same_onWorld _ v

/-! ### What calls are made of -/

section Steps

variable {R : Query × World → Query × World → Prop}

/-- All that calls do beside reading leads to related states. -/
structure Steps (R : Query × World → Query × World → Prop) : Prop where
  configure : ∀ s p, Keeps R (configure (Options.Setting.edit s)) p
  setResults : ∀ ids p, Keeps R (setResults ids) p
  execute : ∀ b p, Keeps R (execute b) p
  fetchAll : ∀ s model t p, Keeps R (onWorld (Statement.fetchAll s model t)) p

theorem keeps_onWorld_reads [Std.Refl R] {a : Act α} (ha : ∀ w, Reads a w) (p : Query × World) :
    Keeps R (onWorld a) p := .of_reads (reads_onWorld (ha p.2))

theorem keeps_onWorld_bind {β : Type} [Std.Refl R] {a : Act α} {f : α → Act β} (ha : Reads a p.2)
    (hf : ∀ x, Keeps R (onWorld (f x)) p) : Keeps R (onWorld (a >>= f)) p := by
  unfold Keeps
  rw [run_onWorld]
  rcases h : a.run.run p.2 with ⟨e | x, t⟩ <;> obtain rfl := ha.eq_of_run h
  · rw [run_bind_of_error h]
    exact Std.Refl.refl p
  · rw [run_bind_of_ok h]
    exact hf x

theorem reads_values (key : Value) (ids : List Nat) (w : World) : Reads (do
    let values ← ids.mapM fun id => do Act.ofFault ((← World.row id).get key)
    return distinct values) w := by
  refine .bind (Eq.symm (Keeps.mapM (R := Eq) (fun id _ v => Eq.symm ?_) w)) fun _ _ => .pure _ w
  exact Reads.bind (reads_row id v) fun r _ => reads_ofFault _ v

theorem reads_number (s : Nat) (w : World) : Reads (do
    let v ← Act.ofFault (← Statement.get s).firstColumn
    if v.isTruthy then Act.ofExcept v.integer else return 0) w := by
  refine .bind (reads_statement s w) fun r _ => .bind (reads_ofFault _ w) fun v _ => ?_
  split_ifs
  · exact reads_ofExcept _ w
  · exact .pure 0 w

namespace Steps

variable [Std.Refl R] [IsTrans (Query × World) R] (h : Steps R)
include h

theorem fetch (columns : Value) (p : Query × World) : Keeps R (Query.fetch columns) p := by
  rw [fetch_eq]
  refine .bind ?_ fun ids u _ => .bind (h.setResults _ u) fun _ v _ => .pure ids v
  refine .bind_reads rfl fun x _ => .bind_reads rfl fun b _ => ?_
  refine .bind (h.execute b p) fun s u _ => ?_
  split
  · exact keeps_onWorld_bind (reads_model _ u.2) fun m => h.fetchAll s _ _ u
  · exact h.fetchAll s _ _ u

theorem count (p : Query × World) : Keeps R Query.count p := by
  refine .bind_reads rfl fun x _ => ?_
  dsimp only
  split
  · exact .pure _ p
  · refine .bind_reads rfl fun b _ => .bind (h.execute b p) fun s u _ => ?_
    exact keeps_onWorld_reads (reads_number s) u

theorem pluck (key : Value) (p : Query × World) : Keeps R (Query.pluck key) p := by
  refine .bind_reads rfl fun x _ => ?_
  dsimp only
  split
  · exact keeps_onWorld_reads (reads_values key _) p
  · exact .bind (h.fetch .null p) fun ids u _ => keeps_onWorld_reads (reads_values key ids) u

theorem change (r : Except Error BoundSql) (p : Query × World) : Keeps R (Query.change r) p := by
  refine .bind_reads rfl fun b _ => .bind (h.setResults none p) fun _ u _ => ?_
  refine .bind (h.execute b u) fun s v _ => ?_
  exact .bind_reads (reads_onWorld (reads_statement s v.2)) fun _ _ => .pure _ v

theorem update (values : Value) (p : Query × World) : Keeps R (Query.update values) p := by
  unfold Keeps
  rw [run_update]
  exact h.change _ p

/-- So does every call. -/
theorem call (call : Call) (p : Query × World) : Keeps R call.run p := by
  cases call with
  | configure s => exact h.configure s p
  | fetch columns => exact .bind (h.fetch columns p) fun _ u _ => .pure () u
  | count => exact .bind (h.count p) fun _ u _ => .pure () u
  | pluck key => exact .bind (h.pluck key p) fun _ u _ => .pure () u
  | update values => exact .bind (h.update values p) fun _ u _ => .pure () u
  | updateColumn column value =>
    refine .bind ?_ fun _ u _ => .pure () u
    unfold updateColumn
    split
    · exact h.update _ p
    · exact .throw _ p
  | delete =>
    refine .bind ?_ fun _ u _ => .pure () u
    unfold Keeps
    rw [run_delete]
    exact h.change _ p

end Steps

end Steps

/-- A fetch that succeeds keeps its rows, and one that fails leaves the query as it is. -/
theorem run_fetch (columns : Value) (p : Query × World) :
    (∃ ids u, (fetch columns).run.run p = (.ok ids, { p.1 with results := some ids }, u)) ∨
      ∃ e u, (fetch columns).run.run p = (.error e, p.1, u) := by
  have hsame := same_selected columns p
  rw [fetch_eq, run_bind]
  rcases hrun : (selected columns).run.run p with ⟨e | ids, q, w⟩
  all_goals obtain rfl : p.1 = q := hsame.of_run hrun
  · exact .inr ⟨e, w, rfl⟩
  · exact .inl ⟨ids, w, rfl⟩

/-- The rows of a fetch are those of its statement, read into the model of the table. -/
theorem run_fetch_of_rows {p u : Query × World} {b : BoundSql} {n : Nat} {s : Prepared} {m : Model}
    {rows : List Row} (hb : Sql.select p.1.table.name p.1.options .null = .ok b)
    (hn : (execute b).run.run p = (.ok n, u)) (hs : u.2.statements[n]? = some s)
    (hm : p.1.table.model.run.run u.2 = (.ok m, u.2))
    (hrows : s.readRows m (some p.1.table) = .ok rows) :
    (fetch .null).run.run p = (.ok (List.range' u.2.rows.length rows.length),
      { u.1 with results := some (List.range' u.2.rows.length rows.length) },
      { u.2 with rows := u.2.rows ++ rows }) := by
  have hget : (get : QueryAct (Query × World)).run.run p = (.ok p, p) := rfl
  have hselect : (onWorld (Act.ofExcept (Sql.select p.1.table.name p.1.options .null))).run.run p =
      (.ok b, p) := by rw [run_onWorld, run_ofExcept, hb]
  rw [fetch_eq, run_bind, selected, run_bind_of_ok hget, run_bind_of_ok hselect,
    run_bind_of_ok hn, run_onWorld, run_bind_of_ok hm, Statement.run_fetchAll hs, hrows]
  rfl

/-- A change of rows forgets the rows kept, unless it cannot be compiled. -/
theorem change_results (r : Except Error BoundSql) (p : Query × World) :
    ((change r).run.run p).2.1.options = p.1.options ∧
      (((change r).run.run p).2.1.results = none ∨ ((change r).run.run p).2.1 = p.1) := by
  cases r with
  | error e => exact ⟨rfl, .inr rfl⟩
  | ok b =>
    have hrest : Keeps SameQuery (do
        let s ← execute b
        return (← onWorld (Statement.get s)).rowCount) ({ p.1 with results := none }, p.2) :=
      .bind (same_execute b _) fun s u _ => .bind (same_onWorld _ u) fun _ v _ => .pure _ v
    have hq : ((change (.ok b)).run.run p).2.1 = { p.1 with results := none } := Eq.symm hrest
    rw [hq]
    exact ⟨rfl, .inl rfl⟩

theorem same_count (p : Query × World) : Keeps SameQuery count p := by
  refine .bind_reads rfl fun x _ => ?_
  dsimp only
  split
  · exact .pure _ p
  · refine .bind (same_onWorld _ p) fun b u _ => ?_
    refine .bind (same_execute b u) fun s v _ => ?_
    exact same_onWorld _ v

theorem run_pluck (key : Value) (p : Query × World) :
    ((pluck key).run.run p).2.1 = match p.1.results with
      | some _ => p.1
      | none => (fetch.run.run p).2.1 := by
  have hget : (get : QueryAct (Query × World)).run.run p = (.ok p, p) := rfl
  rw [pluck, run_bind_of_ok hget]
  cases p.1.results with
  | some ids => rfl
  | none =>
    dsimp only
    rw [run_bind]
    rcases fetch.run.run p with ⟨e | ids, u⟩ <;> rfl

theorem snd_run_ignore (a : QueryAct α) (p : Query × World) :
    ((do let _ ← a : QueryAct Unit).run.run p).2 = (a.run.run p).2 := by
  rw [run_bind]
  rcases a.run.run p with ⟨e | x, u⟩ <;> rfl

/-- What one call does to the rows kept: it keeps those it fetched, or it fetches nothing and leaves
or forgets those kept before. -/
def Call.Updates (call : Call) (p : Query × World) (q : Query) : Prop :=
  (∃ ids, call.Fetches p ids ∧ q.results = some ids) ∨
    ((∀ ids, ¬ call.Fetches p ids) ∧ (q.results = p.1.results ∨ q.results = none))

theorem fetch_updates {call : Call} {columns : Value} {q : Query}
    (hq : q = ((fetch columns).run.run p).2.1)
    (hc : ∀ ids, call.Fetches p ids ↔ ∃ u, (fetch columns).run.run p = (.ok ids, u)) :
    q.options = p.1.options ∧ call.Updates p q := by
  rcases run_fetch columns p with ⟨ids, u, h⟩ | ⟨e, u, h⟩ <;> rw [h] at hq <;> subst hq
  · exact ⟨rfl, .inl ⟨ids, (hc ids).mpr ⟨_, h⟩, rfl⟩⟩
  · refine ⟨rfl, .inr ⟨fun ids hf => ?_, .inl rfl⟩⟩
    obtain ⟨v, hv⟩ := (hc ids).mp hf
    cases h.symm.trans hv

theorem Call.updates_of_same {call : Call} {q : Query} (hc : ∀ ids, ¬ call.Fetches p ids)
    (hq : q = p.1) : q.options = p.1.options ∧ call.Updates p q := by
  subst hq
  exact ⟨rfl, .inr ⟨hc, .inl rfl⟩⟩

theorem change_updates {call : Call} (r : Except Error BoundSql) (hc : ∀ ids, ¬ call.Fetches p ids) :
    ((change r).run.run p).2.1.options = p.1.options ∧
      call.Updates p ((change r).run.run p).2.1 := by
  obtain ⟨ho, hr⟩ := change_results r p
  refine ⟨ho, .inr ⟨hc, ?_⟩⟩
  rcases hr with hr | hr
  · exact .inr hr
  · exact .inl (congrArg Query.results hr)

/-- A call makes its setting if it is one, and else leaves the options as they are. -/
theorem Call.step (call : Call) (p : Query × World) :
    (call.run.run.run p).2.1.options = p.1.options.configured (settingsOf [call]) ∧
      call.Updates p (call.run.run.run p).2.1 := by
  cases call with
  | configure s => exact ⟨rfl, .inr ⟨fun _ h => (nomatch h), .inl rfl⟩⟩
  | fetch columns =>
    rw [Call.run, snd_run_ignore]
    exact fetch_updates rfl fun ids => ⟨fun | .fetch h => ⟨_, h⟩, fun ⟨_, h⟩ => .fetch h⟩
  | count =>
    rw [Call.run, snd_run_ignore]
    exact updates_of_same (fun _ h => nomatch h) (Eq.symm (same_count p))
  | pluck key =>
    rw [Call.run, snd_run_ignore, run_pluck]
    split
    · rename_i ids hr
      refine updates_of_same (fun jds h => ?_) rfl
      cases h with
      | pluck hn _ => cases hr.symm.trans hn
    · rename_i hn
      exact fetch_updates rfl fun ids => ⟨fun | .pluck _ h => ⟨_, h⟩, fun ⟨_, h⟩ => .pluck hn h⟩
  | update values =>
    rw [Call.run, snd_run_ignore, run_update]
    exact change_updates _ fun _ h => nomatch h
  | updateColumn column value =>
    rw [Call.run, snd_run_ignore, updateColumn.eq_def]
    split
    · rw [run_update]
      exact change_updates _ fun _ h => nomatch h
    · exact updates_of_same (fun _ h => nomatch h) rfl
  | delete =>
    rw [Call.run, snd_run_ignore, run_delete]
    exact change_updates _ fun _ h => nomatch h

/-! ### Runs of calls -/

/-- Among some calls, the one that fetched the rows with these numbers last. -/
structure FetchedBy (p : Query × World) (calls before : List Call) (call : Call)
    (since : List Call) (ids : List Nat) : Prop where
  calls_eq : calls = before ++ call :: since
  fetches : call.Fetches (after before p) ids
  last : ∀ mid later rest, since = mid ++ later :: rest →
    ∀ jds, ¬ later.Fetches (after (before ++ call :: mid) p) jds

theorem Call.Fetches.settingsOf_eq {call : Call} {ids : List Nat} (h : call.Fetches p ids) :
    settingsOf [call] = [] := by
  cases h <;> rfl

theorem FetchedBy.concat {calls before since : List Call} {call later : Call} {ids : List Nat}
    (h : FetchedBy p calls before call since ids)
    (hl : ∀ jds, ¬ later.Fetches (after calls p) jds) :
    FetchedBy p (calls ++ [later]) before call (since ++ [later]) ids where
  calls_eq := by rw [h.calls_eq, List.append_assoc, List.cons_append]
  fetches := h.fetches
  last := by
    intro mid next rest hsince
    rcases List.eq_nil_or_concat' rest with rfl | ⟨rest, final, rfl⟩
    · obtain ⟨rfl, hlast⟩ := List.append_inj' hsince rfl
      obtain rfl := List.head_eq_of_cons_eq hlast
      rw [← h.calls_eq]
      exact hl
    · rw [← List.cons_append, ← List.append_assoc] at hsince
      exact h.last mid next rest (List.append_inj' hsince rfl).1

/-- The rows kept were fetched by one of the calls, and the options are those of that fetch with the
settings made since. -/
theorem after_results (hp : p.1.results = none) {calls : List Call} {ids : List Nat}
    (h : (after calls p).1.results = some ids) : ∃ before call since,
      FetchedBy p calls before call since ids ∧
        (after calls p).1.options = (after before p).1.options.configured (settingsOf since) := by
  induction calls using List.reverseRecOn with
  | nil => cases hp.symm.trans h
  | append_singleton calls call ih =>
    obtain ⟨ho, hcall⟩ := call.step (after calls p)
    rw [after_concat] at h ⊢
    rcases hcall with ⟨jds, hf, hr⟩ | ⟨hf, hr | hr⟩
    · obtain rfl := Option.some.inj (hr.symm.trans h)
      refine ⟨calls, call, [], ⟨rfl, hf, fun _ _ _ hnil => ?_⟩, ?_⟩
      · exact absurd hnil.symm (List.append_ne_nil_of_right_ne_nil _ (List.cons_ne_nil _ _))
      · rw [ho, hf.settingsOf_eq]
        rfl
    · obtain ⟨before, first, since, hfirst, hs⟩ := ih (hr.symm.trans h)
      refine ⟨before, first, since ++ [call], hfirst.concat hf, ?_⟩
      rw [ho, hs, settingsOf, settingsOf, settingsOf, List.filterMap_append,
        Options.configured_append]
    · cases hr.symm.trans h

/-! ### Answers that send nothing -/

theorem run_execute_eq_ok {b : BoundSql} {s : Nat} (h : (execute b).run.run p = (.ok s, u)) :
    u.2.connection.sent = p.2.connection.sent ++ [b] := by
  have hget : (get : QueryAct (Query × World)).run.run p = (.ok p, p) := rfl
  rw [execute, run_bind_of_ok hget] at h
  split at h
  · cases h
  · rename_i d _
    obtain ⟨hr, rfl⟩ := Prod.mk.inj (run_onWorld _ p ▸ h)
    cases hd : p.2.databases[d]? with
    | none =>
      rw [run_bind_of_error (Statement.run_prepare_none hd)] at hr
      cases hr
    | some db =>
      rw [Statement.run_ask b.sql (fun s => pure s) hd (Value.bound?_list b.args)] at hr ⊢
      split at hr
      · cases hr
      · rfl

/-- What sends nothing itself leaves the statements sent as they are. -/
theorem sent_of_reaches {a : Act α} (h : ∀ w, Keeps (World.Reaches fun _ => False) a w)
    (p : Query × World) :
    ((onWorld a).run.run p).2.2.connection.sent = p.2.connection.sent := by
  rw [run_onWorld]
  exact World.Reaches.sent_eq (h p.2)

/-- Rows are read from an answer that is already there. -/
theorem sent_readRows (columns : Value) (t : Table) (s : Nat) (p : Query × World) :
    ((match columns with
      | .null => onWorld do Statement.fetchAll s (.model (← t.model)) (some t)
      | _ => onWorld (Statement.fetchAll s (.model .result) none) : QueryAct (List Nat)).run.run
        p).2.2.connection.sent = p.2.connection.sent := by
  split
  · refine sent_of_reaches (fun w => .bind_reads (reads_model _ w) fun m _ => ?_) p
    exact keeps_fetchAll s _ _ w
  · exact sent_of_reaches (fun w => keeps_fetchAll s _ _ w) p

/-- And so is a number of rows. -/
theorem sent_readNumber (s : Nat) (p : Query × World) :
    ((onWorld do
      let v ← Act.ofFault (← Statement.get s).firstColumn
      if v.isTruthy then Act.ofExcept v.integer else return 0 : QueryAct Int).run.run
        p).2.2.connection.sent = p.2.connection.sent :=
  congrArg (fun w : World => w.connection.sent) (reads_number s p.2)

/-- Compiles a statement, sends it and reads the answer. -/
def ask (r : Except Error BoundSql) (read : Nat → QueryAct α) : QueryAct α := do
  let b ← onWorld (Act.ofExcept r)
  let s ← execute b
  read s

/-- What asks and reads an answer has sent its statement. -/
theorem ask_sent {r : Except Error BoundSql} {read : Nat → QueryAct α} {x : α}
    (hread : ∀ s v, ((read s).run.run v).2.2.connection.sent = v.2.connection.sent)
    (h : (ask r read).run.run p = (.ok x, u)) :
    u.2.connection.sent ≠ p.2.connection.sent := by
  obtain ⟨b, v, hb, h⟩ := run_bind_eq_ok.mp h
  obtain ⟨-, rfl⟩ := Prod.mk.inj hb
  obtain ⟨s, v, hs, h⟩ := run_bind_eq_ok.mp h
  have hsent := hread s v
  rw [h] at hsent
  rw [hsent, run_execute_eq_ok hs]
  simp

theorem selected_sent {columns : Value} {ids : List Nat}
    (h : (selected columns).run.run p = (.ok ids, u)) :
    u.2.connection.sent ≠ p.2.connection.sent := by
  have hget : (get : QueryAct (Query × World)).run.run p = (.ok p, p) := rfl
  rw [selected, run_bind_of_ok hget] at h
  exact ask_sent (sent_readRows columns p.1.table) h

theorem fetch_sent {columns : Value} {ids : List Nat}
    (h : (fetch columns).run.run p = (.ok ids, u)) :
    u.2.connection.sent ≠ p.2.connection.sent := by
  rw [fetch_eq] at h
  obtain ⟨jds, ⟨q, w⟩, hs, h⟩ := run_bind_eq_ok.mp h
  obtain ⟨-, rfl⟩ := Prod.mk.inj h
  have hw : w.connection.sent ≠ p.2.connection.sent := selected_sent hs
  exact hw

/-- A count that sends nothing is the number of the rows kept. -/
theorem count_of_nothing_sent {n : Int} (h : count.run.run p = (.ok n, u))
    (hs : u.2.connection.sent = p.2.connection.sent) :
    ∃ ids, p.1.results = some ids ∧ n = ids.length := by
  have hget : (get : QueryAct (Query × World)).run.run p = (.ok p, p) := rfl
  rw [count, run_bind_of_ok hget] at h
  dsimp only at h
  split at h
  · rename_i id ids hr
    obtain ⟨hn, -⟩ := Prod.mk.inj h
    exact ⟨id :: ids, hr, (Except.ok.inj hn).symm⟩
  · exact absurd hs (ask_sent sent_readNumber h)

theorem pluck_of_nothing_sent {key : Value} {values : List Value}
    (h : (pluck key).run.run p = (.ok values, u))
    (hs : u.2.connection.sent = p.2.connection.sent) : ∃ ids, p.1.results = some ids := by
  have hget : (get : QueryAct (Query × World)).run.run p = (.ok p, p) := rfl
  rw [pluck, run_bind_of_ok hget] at h
  cases hr : p.1.results with
  | some ids => exact ⟨ids, rfl⟩
  | none =>
    rw [hr] at h
    obtain ⟨ids, v, hf, h⟩ := run_bind_eq_ok.mp h
    have hrest : u.2.connection.sent = v.2.connection.sent := by
      rw [← sent_of_reaches (a := do
        let values ← ids.mapM fun id => do Act.ofFault ((← World.row id).get key)
        return distinct values) (fun w => .bind (.mapM (fun id _ t => ?_) w) fun _ t _ => .pure _ t)
        v, h]
      exact .bind_reads (reads_row id t) fun r _ => .of_reads (reads_ofFault _ t)
    exact absurd (hrest.symm.trans hs) (fetch_sent hf)

/-- A count or a pluck that sends nothing is answered from the rows fetched last, with options that
are those of that fetch and the settings made since: the same options when there were none. -/
theorem cached_answer_options (hp : p.1.results = none) {calls : List Call} {answer : Call}
    (ha : answer = .count ∨ ∃ key, answer = .pluck key)
    (hrun : answer.run.run.run (after calls p) = (.ok (), u))
    (hs : u.2.connection.sent = (after calls p).2.connection.sent) :
    ∃ ids before call since, FetchedBy p calls before call since ids ∧
      (after calls p).1.results = some ids ∧
      (answer = .count → (count.run.run (after calls p)).1 = .ok ids.length) ∧
      (after calls p).1.options = (after before p).1.options.configured (settingsOf since) ∧
      (settingsOf since = [] → (after calls p).1.options = (after before p).1.options) := by
  obtain ⟨ids, hr, hn⟩ : ∃ ids, (after calls p).1.results = some ids ∧
      (answer = .count → (count.run.run (after calls p)).1 = .ok ids.length) := by
    rcases ha with rfl | ⟨key, rfl⟩
    · obtain ⟨n, v, hc, hv⟩ := run_bind_eq_ok.mp hrun
      obtain ⟨-, rfl⟩ := Prod.mk.inj hv
      obtain ⟨ids, hr, rfl⟩ := count_of_nothing_sent hc hs
      exact ⟨ids, hr, fun _ => congrArg Prod.fst hc⟩
    · obtain ⟨values, v, hc, hv⟩ := run_bind_eq_ok.mp hrun
      obtain ⟨-, rfl⟩ := Prod.mk.inj hv
      obtain ⟨ids, hr⟩ := pluck_of_nothing_sent hc hs
      exact ⟨ids, hr, fun h => nomatch h⟩
  obtain ⟨before, call, since, hf, ho⟩ := after_results hp hr
  refine ⟨ids, before, call, since, hf, hr, hn, ho, fun hnone => ?_⟩
  rw [ho, hnone]
  rfl

/-! ### A count that is out of date -/

/-- A query on all users of a database that answers a selection with three rows. -/
def allUsers : Query × World where
  fst := { table := { id := 0, name := "users", database := some 0 } }
  snd := {
    connection := { queue := [.result ["id"] [[.int 1], [.int 2], [.int 3]] 3 .null] }
    databases := [{ name := "shop" }]
    nextTable := 1 }

/-- Rows are fetched, and only then is one of them asked for. -/
def fetchedThenLimited : List Call := [.fetch .null, .configure (.takeRows (.int 1))]

theorem fetchedThenLimited_count : ∃ u,
    Call.count.run.run.run (after fetchedThenLimited allUsers) = (.ok (), u) ∧
      u.2.connection.sent = (after fetchedThenLimited allUsers).2.connection.sent :=
  ⟨_, rfl, rfl⟩

/-- The rows kept are counted with none of the options they were fetched with. -/
theorem fetchedThenLimited_stale : ∃ ids u,
    Call.Fetches (.fetch .null) allUsers ids ∧
      (after fetchedThenLimited allUsers).1.results = some ids ∧
      count.run.run (after fetchedThenLimited allUsers) = (.ok ids.length, u) ∧
      u.2.connection.sent = (after fetchedThenLimited allUsers).2.connection.sent ∧
      (after fetchedThenLimited allUsers).1.options ≠ allUsers.1.options := by
  refine ⟨[0, 1, 2], _, .fetch rfl, rfl, rfl, rfl, fun h => ?_⟩
  have hlimit := congrArg (fun o : Options => o.limit.isSome) h
  revert hlimit
  decide +kernel

/-- What that count is answered from, and the setting that was made since. -/
theorem fetchedThenLimited_options : allUsers.1.results = none ∧
    ∃ u, Call.count.run.run.run (after fetchedThenLimited allUsers) = (.ok (), u) ∧
      u.2.connection.sent = (after fetchedThenLimited allUsers).2.connection.sent ∧
      ∃ ids before call since, FetchedBy allUsers fetchedThenLimited before call since ids ∧
        (after fetchedThenLimited allUsers).1.results = some ids ∧
        (count.run.run (after fetchedThenLimited allUsers)).1 = .ok ids.length ∧
        (after fetchedThenLimited allUsers).1.options =
          (after before allUsers).1.options.configured (settingsOf since) := by
  obtain ⟨u, hrun, hs⟩ := fetchedThenLimited_count
  obtain ⟨ids, before, call, since, hf, hr, hn, ho, -⟩ :=
    cached_answer_options rfl (.inl rfl) hrun hs
  exact ⟨rfl, u, hrun, hs, ids, before, call, since, hf, hr, hn rfl, ho⟩

end RowQuery.Query

import RowQuery.Proofs.Running
import RowQuery.Query.Query

/-! Edits of options and the calls that make them. An edit sets a clause to what its arguments spell
and leaves the options as they are when they spell nothing; only a grouping is set before the
conditions beside it are read. A query that was configured is the one before with the options that
its settings lead to, one after another. -/

namespace RowQuery

open Running

/-! ### Edits -/

namespace Options

variable {α : Type} {o : Options}

theorem run_reading (r : Except ArgumentError α) :
    (reading r).run.run o = (r.mapError ArgumentError.toError, o) := rfl

/-- An edit sets options to what is read, and leaves them when nothing can be read. -/
def edited (r : Except ArgumentError α) (o : Options) (f : α → Options) :
    Except Error Unit × Options :=
  match r with
  | .ok x => (.ok (), f x)
  | .error e => (.error e.toError, o)

theorem run_reading_modify (r : Except ArgumentError α) (f : α → Options → Options) :
    (do let x ← reading r; modify (f x) : Edit Unit).run.run o = edited r o fun x => f x o := by
  rw [run_bind, run_reading]
  cases r <;> rfl

theorem run_filterBy (value : Value) (args : List Value) : (filterBy value args).run.run o =
    edited (Condition.ofArguments value args) o fun c => { o with condition := c } :=
  run_reading_modify _ _

theorem run_sortBy (key direction : Value) : (sortBy key direction).run.run o =
    edited (Ordering.read key direction) o fun g => { o with ordering := g } :=
  run_reading_modify _ _

theorem run_takeRows (value : Value) : (takeRows value).run.run o =
    edited (readCount "limit" value) o fun n => { o with limit := n } :=
  run_reading_modify _ _

theorem run_skipRows (value : Value) : (skipRows value).run.run o =
    edited (readCount "offset" value) o fun n => { o with offset := n } :=
  run_reading_modify _ _

/-- The conditions on groups that a value spells, or the ones before when it is nothing. -/
def readHaving (before : Option Condition) : Value → Except ArgumentError (Option Condition)
  | .null => .ok before
  | v => Condition.ofArguments v []

theorem readHaving_none (v : Value) : readHaving none v = Condition.ofArguments v [] := by
  unfold readHaving
  split <;> rfl

/-- Grouping is set before its conditions are read. -/
theorem run_groupBy (key having : Value) :
    (groupBy key having).run.run o = match Grouping.read key with
      | .error e => (.error e.toError, o)
      | .ok none => (.ok (), { o with grouping := none, having := none })
      | .ok (some g) => edited (readHaving o.having having) { o with grouping := some g }
          fun c => { o with grouping := some g, having := c } := by
  rw [groupBy.eq_def, run_bind, run_reading]
  rcases Grouping.read key with e | _ | g
  · rfl
  · rfl
  · have hg : (modify fun o => { o with grouping := some g } : Edit Unit).run.run o =
        (.ok (), { o with grouping := some g }) := rfl
    simp only [Result.ok_mapError, run_bind_of_ok hg]
    split
    · rfl
    · rename_i hn
      rw [readHaving]
      · exact run_reading_modify _ _
      · exact hn

/-- Whatever holds of options before an edit and of those it may set holds after it. -/
theorem edited_induction {P : Options → Prop} {r : Except ArgumentError α} {f : α → Options}
    (ho : P o) (hf : ∀ x, r = .ok x → P (f x)) : P (edited r o f).2 := by
  cases r with
  | ok x => exact hf x rfl
  | error e => exact ho

/-! ### Settings -/

/-- A call that configures a query, with its arguments. -/
inductive Setting
  | filterBy (value : Value) (args : List Value)
  | groupBy (key having : Value)
  | sortBy (key direction : Value)
  | takeRows (value : Value)
  | skipRows (value : Value)

namespace Setting

def edit : Setting → Edit Unit
  | .filterBy value args => Options.filterBy value args
  | .groupBy key having => Options.groupBy key having
  | .sortBy key direction => Options.sortBy key direction
  | .takeRows value => Options.takeRows value
  | .skipRows value => Options.skipRows value

/-- The options after a setting, whether it fails or not. -/
def apply (s : Setting) (o : Options) : Options := (s.edit.run.run o).2

end Setting

/-- The options after some settings, one after another. -/
def configured (o : Options) (settings : List Setting) : Options :=
  settings.foldl (fun o s => s.apply o) o

theorem configured_append (o : Options) (settings more : List Setting) :
    o.configured (settings ++ more) = (o.configured settings).configured more :=
  List.foldl_append

end Options

namespace Query

/-- A query after some settings. -/
def configured (q : Query) (settings : List Options.Setting) : Query :=
  { q with options := q.options.configured settings }

/-- Configuring a query changes its options and nothing else. -/
theorem run_configure (s : Options.Setting) (q : Query) (w : World) :
    (configure s.edit).run.run (q, w) =
      ((s.edit.run.run q.options).1, q.configured [s], w) := rfl

end Query

end RowQuery

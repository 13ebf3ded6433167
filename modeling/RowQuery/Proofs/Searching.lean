import RowQuery.Proofs.Exchange
import RowQuery.Proofs.Preparation

/-! Searches on their way to the driver. A search sends nothing but its selection, which it builds
like the compiling service, and answers with the rows it got. -/

namespace RowQuery.Service

open Running

variable {r : Registry} {payload v : Value} {w w' : World} {database : Nat}

theorem keeps_runOn {α : Type} {R : World → World → Prop} {q : Query} {a : QueryAct α}
    (h : Keeps (Function.onFun R Prod.snd) a (q, w)) : Keeps R (runOn q a) w := h

theorem keeps_answer {R : World → World → Prop} [Std.Refl R] [IsTrans World R] {a : Act Value}
    (h : Keeps R a w) : Keeps R (answer a) w := by
  refine .tryCatch (.bind h fun v u _ => .pure _ u) fun e u _ => ?_
  split
  · exact .pure _ u
  · exact .throw _ u

/-- Preparing a request touches the world only to find its table. -/
theorem keeps_prepare {R : World → World → Prop} [Std.Refl R] [IsTrans World R]
    {tableFor : String → Act Table} (ht : ∀ name u, Keeps R (tableFor name) u) :
    Keeps R (prepare r tableFor payload) w := by
  rw [prepare_eq]
  refine .bind_reads (reads_ofExcept _ w) fun e _ => ?_
  refine .bind (ht e.2.table w) fun table u _ => ?_
  exact .bind_reads (reads_ofExcept _ u) fun options _ => .pure _ u

/-- A statement is the selection of a plan on some table. -/
def Selects (r : Registry) (payload : Value) (b : BoundSql) : Prop :=
  ∃ p table, plan r payload = .ok p ∧ Sql.select table p.options p.request.columns = .ok b

/-- A search sends nothing but its selection. -/
theorem search_reaches (r : Registry) (database : Nat) (payload : Value) (w : World) :
    Keeps (World.Reaches fun x => Selects r payload x.statement) (search r database payload) w := by
  refine keeps_answer (.bind (keeps_prepare fun name u => keeps_table database _ u) ?_)
  intro q u hq
  obtain ⟨p, table, hp, -, rfl⟩ := prepare_eq_ok.mp hq
  refine .bind_reads (reads_ofExcept _ u) fun select _ => ?_
  refine .bind (keeps_runOn (keeps_fetch fun b o hb => ⟨p, table.name, hp, hb⟩)) fun ids t _ => ?_
  refine .bind (.mapM (fun id _ s => .of_reads (reads_row id s)) t) fun rows s _ => ?_
  exact .pure _ s

/-- The answer of a search to a plan with its selection and the rows it got. -/
def found (p : Plan) (select : BoundSql) (rows : List Row) : Value :=
  fields [("rows", .list (rows.map Row.toValue)), ("count", .int rows.length),
    ("sql", .text select.sql), ("params", .list select.args),
    ("limitApplied", p.request.limit), ("mappedTable", .text p.entry.table)]

theorem search_eq_body (h : (search r database payload).run.run w = (.ok (.body v), w')) :
    ∃ p table select rows, plan r payload = .ok p ∧
      Sql.select table p.options p.request.columns = .ok select ∧ v = found p select rows := by
  rw [search, answer_eq_body] at h
  obtain ⟨q, u, hq, h⟩ := run_bind_eq_ok.mp h
  obtain ⟨p, table, hp, -, rfl⟩ := prepare_eq_ok.mp hq
  obtain ⟨select, hs, h⟩ := run_ofExcept_bind_eq_ok.mp h
  obtain ⟨ids, t, -, h⟩ := run_bind_eq_ok.mp h
  obtain ⟨rows, s, -, h⟩ := run_bind_eq_ok.mp h
  obtain ⟨hv, -⟩ := Prod.mk.inj h
  exact ⟨p, table.name, select, rows, hp, hs, (Except.ok.inj hv).symm⟩

end RowQuery.Service

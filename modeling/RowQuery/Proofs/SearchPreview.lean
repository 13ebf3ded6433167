import RowQuery.Proofs.Handling
import RowQuery.Proofs.RowLimits

/-! Searches and what the compiling service says of them. Both compile the selection of the same
plan, so they refuse the same requests for the same reasons; a search that is not refused before it
sends anything sends the selection that was compiled, and nothing else. -/

namespace RowQuery.Service

open Running

variable {r : Registry} {payload : Value} {p : Plan} {b : BoundSql} {e : Error} {w : World}
  {database : Nat} {d : Database}

/-- The plan of a request and its selection. -/
def selection (r : Registry) (payload : Value) : Except Error (Plan × BoundSql) := do
  let p ← namedPlan r payload
  let b ← Sql.select p.entry.table p.options p.request.columns
  return (p, b)

theorem selection_eq_ok : selection r payload = .ok (p, b) ↔ namedPlan r payload = .ok p ∧
    Sql.select p.entry.table p.options p.request.columns = .ok b := by
  constructor
  · intro h
    obtain ⟨p, hp, h⟩ := Result.bind_eq_ok.mp h
    obtain ⟨b, hb, h⟩ := Result.bind_eq_ok.mp h
    obtain ⟨rfl, rfl⟩ := Prod.mk.inj (Except.ok.inj h)
    exact ⟨hp, hb⟩
  · rintro ⟨hp, hb⟩
    rw [selection, hp, Result.ok_bind, hb]
    rfl

/-- Clauses that a selection takes are taken by a count as well. -/
theorem count_of_select {table : String} {o : Options} {columns : Value}
    (h : Sql.select table o columns = .ok b) : ∃ c, Sql.count table o = .ok c := by
  obtain ⟨clauses, items, hc, -, -⟩ := Sql.select_eq_ok.mp h
  rw [Options.assemble_reading, ← Options.assemble_reading o "count"] at hc
  exact ⟨_, Sql.count_eq_ok.mpr ⟨clauses, hc, rfl⟩⟩

theorem compile_of_ok (h : selection r payload = .ok (p, b)) (w : World) :
    ∃ count u, (compile r payload).run.run w = (.ok (.body (preview p b count)), u) := by
  obtain ⟨hp, hb⟩ := selection_eq_ok.mp h
  obtain ⟨hp, hn⟩ := namedPlan_eq_ok.mp hp
  obtain ⟨count, hc⟩ := count_of_select hb
  exact ⟨count, _, compile_eq_body.mpr ⟨p, b, count, hp, hn, hb, hc, rfl, rfl⟩⟩

/-- A request without a selection fails while it is prepared or right after, on every kind of table
and whatever would be done with the selection. -/
theorem run_of_error {α : Type} {tableFor : String → Act Table} {Given : Table → World → Prop}
    {f : Prepared → BoundSql → Act α} (ht : GivesTables tableFor w Given)
    (h : selection r payload = .error e) :
    (do
      let q ← prepare r tableFor payload
      let select ← Act.ofExcept (q.query.toSql (.text "select") q.request.columns .null)
      f q select : Act α).run.run w = (.error e, ((prepare r tableFor payload).run.run w).2) := by
  rw [selection] at h
  cases hp : namedPlan r payload with
  | error e' =>
    rw [hp] at h
    obtain rfl : e' = e := Except.error.inj h
    exact run_bind_of_error (Prod.ext (run_prepare_of_error ht hp) rfl) _
  | ok p =>
    rw [hp, Result.ok_bind] at h
    obtain ⟨table, u, hrun, hname, -⟩ := run_prepare_of_ok ht hp
    rw [run_bind_of_ok hrun, hrun]
    cases hb : Sql.select p.entry.table p.options p.request.columns with
    | error e' =>
      rw [hb] at h
      obtain rfl : e' = e := Except.error.inj h
      rw [← hname] at hb
      exact run_bind_of_error ((run_ofExcept _ u).trans (congrArg (·, u) hb)) _
    | ok b =>
      rw [hb] at h
      cases h

theorem compile_of_error (h : selection r payload = .error e) (w : World) :
    ((compile r payload).run.run w).1 = failed e := by
  rw [compile, run_answer, run_of_error (addTable_gives none w) h]

/-- A search fails like the compiling service, and has sent nothing. -/
theorem search_of_error (hd : w.databases[database]? = some d)
    (h : selection r payload = .error e) :
    ((search r database payload).run.run w).1 = failed e ∧
      ((search r database payload).run.run w).2.connection.sent = w.connection.sent := by
  rw [search, run_answer, run_of_error (table_gives hd) h]
  refine ⟨rfl, World.Reaches.sent_eq ?_⟩
  exact keeps_prepare fun name u => keeps_table database (.text name) u

/-- A search with a selection sends it and nothing else, and answers with it if it answers. -/
theorem search_of_ok (hd : w.databases[database]? = some d)
    (h : selection r payload = .ok (p, b)) :
    ((search r database payload).run.run w).2.connection.sent = w.connection.sent ++ [b] ∧
      ∀ v, ((search r database payload).run.run w).1 = .ok (.body v) →
        ∃ rows, v = found p b rows := by
  obtain ⟨hp, hb⟩ := selection_eq_ok.mp h
  obtain ⟨table, u, hrun, hsent, hname, hdb, d', hd'⟩ := prepare_on hd hp
  have hselect : (Act.ofExcept (Query.toSql { table, options := p.options } (.text "select")
      p.request.columns .null)).run.run u = (.ok b, u) := by
    rw [← hname] at hb
    exact (run_ofExcept _ u).trans (congrArg (·, u) hb)
  rw [search, run_answer, run_bind_of_ok hrun, run_bind_of_ok hselect]
  rw [← hname] at hb
  constructor
  · have hfetch := Query.sent_fetch (q := { table, options := p.options }) hdb hd' hb
    rw [hsent] at hfetch
    refine (sent_bind _ fun ids t => ?_).trans hfetch
    exact .bind (.mapM (fun id _ s => .of_reads (reads_row id s)) t) fun rows s _ => .pure _ s
  · intro v hv
    split at hv
    · rename_i x hx
      obtain ⟨ids, t, -, hrows⟩ := run_bind_eq_ok.mp (Prod.ext hx rfl)
      obtain ⟨rows, s, -, hfound⟩ := run_bind_eq_ok.mp hrows
      obtain rfl : found p b rows = x := Except.ok.inj (Prod.mk.inj hfound).1
      exact ⟨rows, (Response.body.inj (Except.ok.inj hv)).symm⟩
    · exact absurd hv (failed_ne_body _ v)

/-- The compiling service says what a search does, each asked in a world of its own. When it gives
no statements, the search ends in the same way and has sent nothing. When it does, the search sends
the selection alone, and if it is answered it reports the same statement, limit and table. -/
theorem search_previewed (r : Registry) (payload : Value) (u : World)
    (hd : w.databases[database]? = some d) :
    ((∀ v, ((compile r payload).run.run u).1 ≠ .ok (.body v)) →
      ((search r database payload).run.run w).1 = ((compile r payload).run.run u).1 ∧
        ((search r database payload).run.run w).2.connection.sent = w.connection.sent) ∧
    ∀ v, ((compile r payload).run.run u).1 = .ok (.body v) →
      ∃ p select count, plan r payload = .ok p ∧ v = preview p select count ∧
        ((search r database payload).run.run w).2.connection.sent =
          w.connection.sent ++ [select] ∧
        ∀ v, ((search r database payload).run.run w).1 = .ok (.body v) →
          ∃ rows, v = found p select rows := by
  cases h : selection r payload with
  | error e =>
    have hc := compile_of_error h u
    obtain ⟨hs, hsent⟩ := search_of_error hd h
    exact ⟨fun _ => ⟨hs.trans hc.symm, hsent⟩,
      fun v hv => absurd (hc.symm.trans hv) (failed_ne_body e v)⟩
  | ok found =>
    obtain ⟨p, select⟩ := found
    obtain ⟨count, t, hrun⟩ := compile_of_ok h u
    have hc := congrArg Prod.fst hrun
    obtain ⟨hsent, hfound⟩ := search_of_ok hd h
    have hp := (namedPlan_eq_ok.mp (selection_eq_ok.mp h).1).1
    refine ⟨fun hne => absurd hc (hne _), fun v hv => ?_⟩
    have hv : preview p select count = v := Response.body.inj (Except.ok.inj (hc.symm.trans hv))
    exact ⟨p, select, count, hp, hv.symm, hsent, hfound⟩

theorem pagedRequest_previewed : ∃ v u p select count,
    (compile cappedRegistry (.map pagedRequest)).run.run {} = (.ok (.body v), u) ∧
      v = preview p select count ∧
      ((search cappedRegistry 0 (.map pagedRequest)).run.run oneDatabase).2.connection.sent =
        [select] ∧
      ∀ v, ((search cappedRegistry 0 (.map pagedRequest)).run.run oneDatabase).1 =
        .ok (.body v) → ∃ rows, v = found p select rows := by
  have hd : oneDatabase.databases[0]? = some { name := "shop" } := rfl
  obtain ⟨v, u, hrun⟩ := pagedRequest_answered
  obtain ⟨p, select, count, -, hv, hsent, hfound⟩ :=
    (search_previewed cappedRegistry (.map pagedRequest) {} hd).2 v (congrArg Prod.fst hrun)
  exact ⟨v, u, p, select, count, hrun, hv, hsent, hfound⟩

end RowQuery.Service

import RowQuery.Proofs.Handling
import RowQuery.Proofs.RowLimits

/-! Counts and what the compiling service says of them. A count leaves out the paging of its
request, and the compiled one keeps it: the two are the same question exactly when the cap of the
entity turns the limit off. -/

namespace RowQuery.Service

open Running

variable {r : Registry} {entries : List (Value × Value)} {payload : Value} {p : Plan}
  {b : BoundSql} {w : World} {database : Nat} {d : Database}

/-- A count asks its question without paging. -/
theorem sent_count (hd : w.databases[database]? = some d) (hp : namedPlan r payload = .ok p)
    (hb : Sql.count p.entry.table p.options.unpaged = .ok b) :
    ((count r database payload).run.run w).2.connection.sent = w.connection.sent ++ [b] := by
  obtain ⟨table, u, hrun, hsent, hname, hdb, d', hd'⟩ := prepare_on hd hp
  rw [← hname] at hb
  rw [count, run_answer, run_bind_of_ok hrun]
  have hcount := Query.sent_count (q := withoutPaging { table, options := p.options }) rfl hdb hd'
    hb
  rw [hsent] at hcount
  exact (sent_bind _ fun n t => .pure _ t).trans hcount

/-- Paging changes a statement exactly when it takes rows. -/
theorem paged_eq_iff {whole : BoundSql} {n m : Int} :
    (⟨whole.sql ++ (Options.paging n m).sql, whole.args⟩ : BoundSql) = whole ↔ n ≤ 0 := by
  rw [Options.paging_sql]
  split_ifs with hn
  · refine iff_of_false (fun h => ?_) (by omega)
    have hlen := congrArg (fun b => b.sql.toList.length) h
    simp at hlen
  · rw [String.append_empty]
    exact iff_of_true rfl (by omega)

/-- The previewed count is the one that is asked, with the paging of the plan after it. The two are
the same exactly when the cap of the entity is not positive, and else the previewed one has a limit.
-/
theorem count_previewed_iff {v : Value} {u u' : World}
    (h : (compile r (.map entries)).run.run u = (.ok (.body v), u'))
    (hd : w.databases[database]? = some d) :
    ∃ p select previewed counted, plan r (.map entries) = .ok p ∧ v = preview p select previewed ∧
      ((count r database (.map entries)).run.run w).2.connection.sent =
        w.connection.sent ++ [counted] ∧
      previewed.args = counted.args ∧
      previewed.sql = counted.sql ++
        (Options.paging (taken r p.entry entries) (skipped entries)).sql ∧
      (previewed = counted ↔ r.capOf p.entry ≤ 0) := by
  obtain ⟨p, select, previewed, hp, hn, hs, hc, hv, -⟩ := compile_eq_body.mp h
  obtain ⟨-, hl, hm⟩ := plan_counts hp
  obtain ⟨counted, hcounted, rfl⟩ := Sql.count_paged hl hm hc
  have hsent := sent_count hd (namedPlan_eq_ok.mpr ⟨hp, hn⟩) hcounted
  refine ⟨p, select, _, counted, hp, hv, hsent, rfl, rfl, ?_⟩
  rw [paged_eq_iff]
  have := taken_pos_or r p.entry entries
  omega

/-- A mapping file with one table and no cap of its own. -/
def usersFile : String := "\x7b\"tables\": \x7b\"users\": \x7b\x7d\x7d\x7d"

/-- A request for the second few of some users. -/
def agedUsers : List (Value × Value) :=
  [(.text "table", .text "users"), (.text "conditions", .list [.text "age > ?", .int 30]),
    (.text "limit", .int 10), (.text "offset", .int 5)]

theorem agedUsers_answered :
    ∃ r, (Registry.ofFile "tables.json" 1000).load (some usersFile) = .ok r ∧
      ∃ v u, (compile r (.map agedUsers)).run.run {} = (.ok (.body v), u) ∧
        (∀ p select previewed, v = preview p select previewed →
          previewed.sql = "SELECT COUNT(*) FROM `users` WHERE age > ? LIMIT 5, 10") ∧
        ((count r 0 (.map agedUsers)).run.run oneDatabase).2.connection.sent.map (·.sql) =
          ["SELECT COUNT(*) FROM `users` WHERE age > ?"] := by
  have h : ((Registry.ofFile "tables.json" 1000).load (some usersFile)).toOption.any
      (fun r => (((compile r (.map agedUsers)).run.run {}).1.toOption.any fun response =>
        response.body?.any fun v => (v.asEntries.map (·.2.asText))[2]? ==
          some "SELECT COUNT(*) FROM `users` WHERE age > ? LIMIT 5, 10") &&
        ((count r 0 (.map agedUsers)).run.run oneDatabase).2.connection.sent.map (·.sql) ==
          ["SELECT COUNT(*) FROM `users` WHERE age > ?"]) = true := by
    decide +kernel
  generalize (Registry.ofFile "tables.json" 1000).load (some usersFile) = loaded at h ⊢
  rcases loaded with e | r
  · contradiction
  · obtain ⟨hcompile, hsent⟩ := Bool.and_eq_true_iff.mp h
    obtain ⟨v, u, hrun, hv⟩ := answered_of_any hcompile
    refine ⟨r, rfl, v, u, hrun, ?_, beq_iff_eq.mp hsent⟩
    rintro p select previewed rfl
    exact Option.some.inj (beq_iff_eq.mp hv)

/-- The previewed count of a paged request skips the only row it would get. -/
theorem agedUsers_miscounted :
    ∃ r, (Registry.ofFile "tables.json" 1000).load (some usersFile) = .ok r ∧
      ∃ v u, (compile r (.map agedUsers)).run.run {} = (.ok (.body v), u) ∧
        ∃ p select previewed counted, v = preview p select previewed ∧
          ((count r 0 (.map agedUsers)).run.run oneDatabase).2.connection.sent = [counted] ∧
          previewed.sql = "SELECT COUNT(*) FROM `users` WHERE age > ? LIMIT 5, 10" ∧
          counted.sql = "SELECT COUNT(*) FROM `users` WHERE age > ?" := by
  obtain ⟨r, hr, v, u, hrun, hall, hsent⟩ := agedUsers_answered
  obtain ⟨p, select, previewed, -, -, -, -, hv, -⟩ := compile_eq_body.mp hrun
  obtain ⟨counted, hcounted, hsql⟩ := List.map_eq_singleton_iff.mp hsent
  exact ⟨r, hr, v, u, hrun, p, select, previewed, counted, hv, hcounted, hall p select previewed hv,
    hsql⟩

theorem agedUsers_previewed_iff :
    ∃ r, (Registry.ofFile "tables.json" 1000).load (some usersFile) = .ok r ∧
      ∃ v u, (compile r (.map agedUsers)).run.run {} = (.ok (.body v), u) ∧
        oneDatabase.databases[0]? = some { name := "shop" } ∧
        ∃ p select previewed counted, plan r (.map agedUsers) = .ok p ∧
          v = preview p select previewed ∧
          ((count r 0 (.map agedUsers)).run.run oneDatabase).2.connection.sent =
            oneDatabase.connection.sent ++ [counted] ∧
          previewed.args = counted.args ∧
          previewed.sql = counted.sql ++
            (Options.paging (taken r p.entry agedUsers) (skipped agedUsers)).sql ∧
          (previewed = counted ↔ r.capOf p.entry ≤ 0) := by
  obtain ⟨r, hr, v, u, hrun, -⟩ := agedUsers_answered
  exact ⟨r, hr, v, u, hrun, rfl, count_previewed_iff hrun rfl⟩

end RowQuery.Service

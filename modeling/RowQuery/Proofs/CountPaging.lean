import RowQuery.Proofs.CountPreview
import RowQuery.Proofs.JsonValues

/-! Counts of requests that differ in their paging. The limit of a request goes through the cap of
its entity, and limit and offset into the options of its query, before a count clears them. Nothing
else depends on them, so such requests are counted by one statement, and it has no limit. -/

namespace RowQuery

namespace Search.Request

/-- A request without its paging. -/
def unpaged (r : Request) : Request := { r with limit := .null, offset := .null }

/-- It spells the same options, without their paging. -/
theorem options_unpaged {r : Request} {o : Options} (h : r.options = .ok o) :
    r.unpaged.options = .ok o.unpaged := by
  obtain ⟨hc, hg, hh, hs, -, -⟩ := options_eq_ok.mp h
  exact options_eq_ok.mpr ⟨hc, hg, hh, hs, rfl, rfl⟩

/-- Two objects hold the same fields, but for the paging. -/
def SameUnpaged (es ds : List (Value × Value)) : Prop :=
  ∀ key, key ≠ "limit" → key ≠ "offset" → Value.field? es key = Value.field? ds key

theorem ofFields_unpaged {es ds : List (Value × Value)} (h : SameUnpaged es ds) :
    (ofFields es).unpaged = (ofFields ds).unpaged := by
  simp only [ofFields, tableOf, unpaged, h "table" (by decide) (by decide),
    h "columns" (by decide) (by decide), h "conditions" (by decide) (by decide),
    h "group" (by decide) (by decide), h "having" (by decide) (by decide),
    h "sort" (by decide) (by decide)]

end Search.Request

namespace Service

variable {r : Registry} {es ds entries : List (Value × Value)} {p : Plan} {q q' : Prepared}
  {i j : Nat} {d d' : Database} {u u' w w' : World}

/-- A plan without its paging is made of the request without its paging. -/
theorem plan_unpaged (h : plan r (.map entries) = .ok p) :
    r.entry (.text (Search.Request.ofFields entries).unpaged.table) = .ok p.entry ∧
      (Search.Request.ofFields entries).unpaged.options = .ok p.options.unpaged := by
  obtain ⟨-, he, -, hr, ho⟩ := plan_eq_ok.mp h
  have hu := Search.Request.options_unpaged ho
  rw [hr] at hu
  exact ⟨he, hu⟩

/-- The count of a plan is written, with its conditions, its grouping and its ordering. -/
theorem plan_count (hp : (Value.map entries).IsPlain) (h : plan r (.map entries) = .ok p) :
    ∃ clauses, p.options.clausesOf Clause.unpaged = .ok clauses ∧
      Sql.count p.entry.table p.options.unpaged = .ok
        ⟨"SELECT COUNT(*) FROM " ++ Sql.quote p.entry.table ++ clauses.sql, clauses.args⟩ := by
  obtain ⟨-, -, -, hr, ho⟩ := plan_eq_ok.mp h
  rw [hr] at ho
  have hw := Search.Request.options_isWritable (hp.field_getD "conditions")
    (hp.field_getD "having") ho
  have hlimit : Clause.limit ∉ Clause.unpaged := by decide
  obtain ⟨clauses, hc⟩ := hw.clausesOf_ok fun h => absurd h hlimit
  refine ⟨clauses, hc, Sql.count_eq_ok.mpr ⟨clauses, ?_, rfl⟩⟩
  rw [Options.assemble_reading, Options.clausesOf_unpaged, hc]

/-- Two requests that differ in their paging alone, and that are both prepared, are counted by the
same statement with the same values, whatever else the worlds they come to hold. Its clauses are
those of either request without the paging. The payloads hold no ready-made conditions, as no JSON
text does. -/
theorem count_ignores_paging (hp : (Value.map es).IsPlain)
    (hsame : Search.Request.SameUnpaged es ds)
    (hd : w.databases[i]? = some d) (hd' : w'.databases[j]? = some d')
    (hq : (prepare r (fun name => Database.table i (.text name)) (.map es)).run.run w =
      (.ok q, u))
    (hq' : (prepare r (fun name => Database.table j (.text name)) (.map ds)).run.run w' =
      (.ok q', u')) :
    ∃ clauses counted, q.query.options.clausesOf Clause.unpaged = .ok clauses ∧
      q'.query.options.clausesOf Clause.unpaged = .ok clauses ∧
      counted = (⟨"SELECT COUNT(*) FROM " ++ Sql.quote q.entry.table ++ clauses.sql,
        clauses.args⟩ : BoundSql) ∧
      ((count r i (.map es)).run.run w).2.connection.sent = w.connection.sent ++ [counted] ∧
      ((count r j (.map ds)).run.run w').2.connection.sent = w'.connection.sent ++ [counted] := by
  have hn := namedPlan_of_prepare (table_gives hd) hq
  have hn' := namedPlan_of_prepare (table_gives hd') hq'
  have hplan := (namedPlan_eq_ok.mp hn).1
  obtain ⟨he, ho⟩ := plan_unpaged hplan
  obtain ⟨he', ho'⟩ := plan_unpaged (namedPlan_eq_ok.mp hn').1
  rw [← Search.Request.ofFields_unpaged hsame] at he' ho'
  have hentry : q.entry = q'.entry := Except.ok.inj (he.symm.trans he')
  have hoptions : q.query.options.unpaged = q'.query.options.unpaged :=
    Except.ok.inj (ho.symm.trans ho')
  obtain ⟨clauses, hc, hb⟩ := plan_count hp hplan
  have hc' : q'.query.options.clausesOf Clause.unpaged = .ok clauses := by
    rw [← Options.clausesOf_unpaged, ← hoptions, Options.clausesOf_unpaged, hc]
  have hb' := hb
  rw [hentry, hoptions] at hb'
  exact ⟨clauses, _, hc, hc', rfl, sent_count hd hn hb, hentry ▸ sent_count hd' hn' hb'⟩

/-- The request of `agedUsers`, for more rows than the cap and from the first one on. -/
def manyUsers : List (Value × Value) :=
  [(.text "table", .text "users"), (.text "conditions", .list [.text "age > ?", .int 30]),
    (.text "limit", .int 500)]

theorem agedUsers_sameUnpaged : Search.Request.SameUnpaged agedUsers manyUsers := by
  intro key hlimit hoffset
  simp only [agedUsers, manyUsers, Value.field?, Keyed.find?, Value.beq_text_iff,
    Value.text.injEq, hlimit.symm, hoffset.symm, ↓reduceIte]

theorem agedUsers_prepared (entries : List (Value × Value))
    (h : entries = agedUsers ∨ entries = manyUsers) : ∃ q u,
    (prepare cappedRegistry (fun name => Database.table 0 (.text name)) (.map entries)).run.run
      oneDatabase = (.ok q, u) := by
  have hsome : ((prepare cappedRegistry (fun name => Database.table 0 (.text name))
      (.map entries)).run.run oneDatabase).1.toOption.isSome = true := by
    rcases h with rfl | rfl <;> decide +kernel
  obtain ⟨q, hq⟩ := Option.isSome_iff_exists.mp hsome
  exact ⟨q, _, Running.run_eq_of_toOption hq⟩

theorem agedUsers_count_ignores_paging : (Value.map agedUsers).IsPlain ∧
    Search.Request.SameUnpaged agedUsers manyUsers ∧
    ∃ q q' u u',
      (prepare cappedRegistry (fun name => Database.table 0 (.text name)) (.map agedUsers)).run.run
        oneDatabase = (.ok q, u) ∧
      (prepare cappedRegistry (fun name => Database.table 0 (.text name)) (.map manyUsers)).run.run
        oneDatabase = (.ok q', u') ∧
      ∃ clauses counted, q.query.options.clausesOf Clause.unpaged = .ok clauses ∧
        q'.query.options.clausesOf Clause.unpaged = .ok clauses ∧
        counted = (⟨"SELECT COUNT(*) FROM " ++ Sql.quote q.entry.table ++ clauses.sql,
          clauses.args⟩ : BoundSql) ∧
        ((count cappedRegistry 0 (.map agedUsers)).run.run oneDatabase).2.connection.sent =
          [counted] ∧
        ((count cappedRegistry 0 (.map manyUsers)).run.run oneDatabase).2.connection.sent =
          [counted] := by
  have hp : (Value.map agedUsers).IsPlain := Value.isPlain_of_hasJsonForm _ rfl
  obtain ⟨q, u, hq⟩ := agedUsers_prepared agedUsers (.inl rfl)
  obtain ⟨q', u', hq'⟩ := agedUsers_prepared manyUsers (.inr rfl)
  exact ⟨hp, agedUsers_sameUnpaged, q, q', u, u', hq, hq',
    count_ignores_paging hp agedUsers_sameUnpaged rfl rfl hq hq'⟩

end Service

end RowQuery

import RowQuery.Proofs.Alignment

/-! Paging of selections. A statement writes its limit after all other clauses, with the offset
before the number, so a selection is the one without paging and the rows taken after it. -/

namespace RowQuery

namespace Clauses

theorem append_assoc (c d e : Clauses) : c ++ d ++ e = c ++ (d ++ e) := by
  have hf : (c ++ d ++ e).fragments = (c ++ (d ++ e)).fragments := List.append_assoc ..
  have ha : (c ++ d ++ e).args = (c ++ (d ++ e)).args := List.append_assoc ..
  exact congrArg₂ mk hf ha

theorem append_empty (c : Clauses) : c ++ {} = c := by
  have hf : (c ++ {}).fragments = c.fragments := List.append_nil _
  have ha : (c ++ {}).args = c.args := List.append_nil _
  exact congrArg₂ mk hf ha

theorem sql_append (c d : Clauses) : (c ++ d).sql = c.sql ++ d.sql := by
  rw [← String.toList_inj, String.toList_append, toList_sql, toList_sql, toList_sql,
    fragments_append, List.flatMap_append]

end Clauses

/-- The clauses of a statement but for its paging. -/
def Clause.unpaged : List Clause := [.condition, .grouping, .having, .ordering]

namespace Options

variable {o p : Options} {n m : Int}

theorem clausesOf_append (o : Options) (ks ls : List Clause) :
    o.clausesOf (ks ++ ls) = do
      let c ← o.clausesOf ks
      let d ← o.clausesOf ls
      return c ++ d := by
  induction ks with
  | nil =>
    rw [List.nil_append]
    cases o.clausesOf ls <;> rfl
  | cons k ks ih =>
    rw [List.cons_append, clausesOf, ih, clausesOf]
    cases o.clause k with
    | error e => rfl
    | ok c =>
      cases o.clausesOf ks with
      | error e => rfl
      | ok d =>
        cases o.clausesOf ls with
        | error e => rfl
        | ok e => exact congrArg Except.ok (Clauses.append_assoc c d e).symm

theorem clausesOf_congr {ks : List Clause} (h : ∀ k ∈ ks, o.clause k = p.clause k) :
    o.clausesOf ks = p.clausesOf ks := by
  induction ks with
  | nil => rfl
  | cons k ks ih =>
    rw [clausesOf, clausesOf, h k List.mem_cons_self,
      ih fun j hj => h j (List.mem_cons_of_mem k hj)]

/-- A statement that reads rows takes every clause. -/
theorem assemble_reading (o : Options) (operation : String) :
    o.assemble Clause.reading operation = o.clausesOf Clause.all := by
  have h : o.keys.filter (fun k => !Clause.reading.contains k) = [] := by
    rw [List.filter_eq_nil_iff]
    intro k _
    cases k <;> decide
  rw [assemble, h]

/-- The options without paging. -/
def unpaged (o : Options) : Options := o.clear [.limit, .offset]

/-- A count of rows as an option holds it: numbers that are not positive stand for none. -/
def countOf (n : Int) : Option Value := if 0 < n then some (.int n) else none

theorem integer_of_countOf {v : Value} (h : countOf n = some v) : v.integer = .ok n := by
  unfold countOf at h
  split_ifs at h
  obtain rfl := Option.some.inj h
  rfl

/-- The rows taken, after the rows skipped if there are any. -/
def limitText (taken skipped : Int) : String :=
  "LIMIT " ++ (if 0 < skipped then toString skipped ++ ", " else "") ++ toString taken

/-- The clauses that page a statement. -/
def paging (taken skipped : Int) : Clauses :=
  if 0 < taken then ⟨[limitText taken skipped], []⟩ else {}

theorem paging_sql (taken skipped : Int) : (paging taken skipped).sql =
    if 0 < taken then " " ++ limitText taken skipped else "" := by
  unfold paging
  split_ifs <;> rfl

theorem countOf_eq_none (h : countOf n = none) : ¬ 0 < n := by
  intro hn
  rw [countOf, if_pos hn] at h
  cases h

theorem countOf_eq_some {v : Value} (h : countOf n = some v) : 0 < n := by
  unfold countOf at h
  split_ifs at h with hn
  exact hn

theorem clause_limit_eq_ok (hl : o.limit = countOf n) (hm : o.offset = countOf m) {c : Clauses}
    (h : o.clause .limit = .ok c) : c = paging n m := by
  unfold paging limitText
  cases writes_of_clause h with
  | absent hnone =>
    have hlimit := Option.isNone_iff_eq_none.mp (Option.isSome_eq_false_iff.mp hnone)
    rw [if_neg (countOf_eq_none (hl.symm.trans hlimit))]
  | limit hv hn ho =>
    have htaken := hl.symm.trans hv
    have hnone := hm.symm.trans ho
    obtain rfl := Except.ok.inj (hn.symm.trans (integer_of_countOf htaken))
    rw [if_pos (countOf_eq_some htaken), if_neg (countOf_eq_none hnone)]
    rfl
  | paging hv hn hw hk =>
    have htaken := hl.symm.trans hv
    have hskipped := hm.symm.trans hw
    obtain rfl := Except.ok.inj (hn.symm.trans (integer_of_countOf htaken))
    obtain rfl := Except.ok.inj (hk.symm.trans (integer_of_countOf hskipped))
    rw [if_pos (countOf_eq_some htaken), if_pos (countOf_eq_some hskipped), ← String.append_assoc]

theorem clauseAll_eq : Clause.all = Clause.unpaged ++ [.limit, .offset] := rfl

/-- Options without paging write all clauses but for the paging. -/
theorem clausesOf_unpaged (o : Options) :
    o.unpaged.clausesOf Clause.all = o.clausesOf Clause.unpaged := by
  have hsame : o.unpaged.clausesOf Clause.unpaged = o.clausesOf Clause.unpaged := by
    apply clausesOf_congr
    simp only [Clause.unpaged, List.mem_cons, List.not_mem_nil, or_false]
    rintro k (rfl | rfl | rfl | rfl) <;> rfl
  have hnone : o.unpaged.clausesOf [.limit, .offset] = .ok {} := rfl
  rw [clauseAll_eq, clausesOf_append, hsame, hnone]
  cases o.clausesOf Clause.unpaged with
  | error e => rfl
  | ok c => exact congrArg Except.ok c.append_empty

/-- Paging is written after all other clauses. -/
theorem clausesOf_paged (hl : o.limit = countOf n) (hm : o.offset = countOf m) {c : Clauses}
    (h : o.clausesOf Clause.all = .ok c) :
    ∃ rest, o.unpaged.clausesOf Clause.all = .ok rest ∧ c = rest ++ paging n m := by
  rw [clauseAll_eq, clausesOf_append] at h
  obtain ⟨rest, hr, h⟩ := Result.bind_eq_ok.mp h
  obtain ⟨last, hlast, h⟩ := Result.bind_eq_ok.mp h
  obtain rfl := Except.ok.inj h
  obtain ⟨page, hpage, hlast⟩ := Result.bind_eq_ok.mp hlast
  obtain rfl := Except.ok.inj hlast
  refine ⟨rest, (clausesOf_unpaged o).trans hr, ?_⟩
  rw [clause_limit_eq_ok hl hm hpage]
  exact congrArg (rest ++ ·) (paging n m).append_empty

/-- Clauses that rows are read by are those without paging, and the paging after them. -/
theorem assemble_paged (hl : o.limit = countOf n) (hm : o.offset = countOf m) {operation : String}
    {clauses : Clauses} (h : o.assemble Clause.reading operation = .ok clauses) :
    ∃ rest, o.unpaged.assemble Clause.reading operation = .ok rest ∧
      clauses.sql = rest.sql ++ (paging n m).sql ∧ clauses.args = rest.args := by
  rw [assemble_reading] at h
  obtain ⟨rest, hr, rfl⟩ := clausesOf_paged hl hm h
  refine ⟨rest, (assemble_reading _ _).trans hr, Clauses.sql_append _ _, ?_⟩
  rw [Clauses.args_append, paging]
  split_ifs <;> exact List.append_nil _

end Options

namespace Sql

variable {o : Options} {n m : Int} {table : String} {b : BoundSql}

/-- A selection of options that can be written fails for its columns alone. -/
theorem select_of_isWritable (ho : o.IsWritable) (hp : o.HasShortPage) (table : String)
    (columns : Value) : ∃ f : String → BoundSql, select table o columns =
      ((projection columns).map f).mapError ArgumentError.toError := by
  obtain ⟨clauses, hc⟩ := ho.clausesOf_ok fun _ => hp
  refine ⟨fun items => ⟨"SELECT " ++ items ++ " FROM " ++ quote table ++ clauses.sql,
    clauses.args⟩, ?_⟩
  rw [select, Options.assemble_reading, hc, Result.ok_bind]
  cases projection columns <;> rfl

/-- A page whose numbers are too long is not selected. -/
theorem select_of_longPage (ho : o.IsWritable) (hp : ¬ o.HasShortPage) (table : String)
    (columns : Value) : select table o columns = .error (.fault .value) := by
  rw [select, Options.assemble_reading, ho.clausesOf_eq_error hp (by decide)]
  rfl

/-- A paged selection is the one without paging, and the rows taken after it. -/
theorem select_paged (hl : o.limit = Options.countOf n) (hm : o.offset = Options.countOf m)
    {columns : Value} (h : select table o columns = .ok b) :
    ∃ whole, select table o.unpaged columns = .ok whole ∧
      b = ⟨whole.sql ++ (Options.paging n m).sql, whole.args⟩ := by
  obtain ⟨clauses, items, hc, hi, rfl⟩ := select_eq_ok.mp h
  obtain ⟨rest, hr, hsql, hargs⟩ := Options.assemble_paged hl hm hc
  refine ⟨_, select_eq_ok.mpr ⟨rest, items, hr, hi, rfl⟩, ?_⟩
  rw [hsql, hargs, ← String.append_assoc]

/-- And so is a paged count. -/
theorem count_paged (hl : o.limit = Options.countOf n) (hm : o.offset = Options.countOf m)
    (h : count table o = .ok b) : ∃ whole, count table o.unpaged = .ok whole ∧
      b = ⟨whole.sql ++ (Options.paging n m).sql, whole.args⟩ := by
  obtain ⟨clauses, hc, rfl⟩ := count_eq_ok.mp h
  obtain ⟨rest, hr, hsql, hargs⟩ := Options.assemble_paged hl hm hc
  refine ⟨_, count_eq_ok.mpr ⟨rest, hr, rfl⟩, ?_⟩
  rw [hsql, hargs, ← String.append_assoc]

end Sql

end RowQuery

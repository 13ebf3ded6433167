import RowQuery.Proofs.Paging
import RowQuery.Proofs.Parametricity
import RowQuery.Proofs.Preview
import RowQuery.Proofs.Searching
import RowQuery.Proofs.ValueEquality

/-! How many rows a request takes. The limit of a request is checked by the schema, capped by its
entity and read as a count of rows, and a count that is not positive leaves the selection without a
limit. So the limit stands as long as the cap is positive, and a cap that is not turns it off. -/

namespace RowQuery

/-! ### Doubles without a fraction -/

namespace Double

variable {x : Double} {n : Int}

/-- A double that is an integer compares like it. -/
theorem intLess_of_toInt? (h : x.toInt? = some n) (k : Int) : intLess k x = decide (k < n) := by
  obtain ⟨negative, m, e, d, rfl, hf, hd, -⟩ := toInt?_eq_some h
  have hd : (0 : Int) < d := by omega
  simp only [intLess, hf, Int.mul_lt_mul_right hd]

theorem lessInt_of_toInt? (h : x.toInt? = some n) (k : Int) : x.lessInt k = decide (n < k) := by
  obtain ⟨negative, m, e, d, rfl, hf, hd, -⟩ := toInt?_eq_some h
  have hd : (0 : Int) < d := by omega
  simp only [lessInt, hf, Int.mul_lt_mul_right hd]

theorem isZero_of_toInt? (h : x.toInt? = some n) : x.isZero = decide (n = 0) := by
  obtain ⟨negative, m, e, d, rfl, -, -, hm⟩ := toInt?_eq_some h
  simp only [isZero, hm, beq_eq_decide]

end Double

/-! ### Counts -/

/-- The number of rows a value stands for, none and zero for values that are no integers. -/
def Value.count : Value → Int
  | .int n => n
  | .float x => x.toInt?.getD 0
  | _ => 0

namespace Search.Schema

/-- A count is nothing, an integer, or a double without a fraction. -/
theorem isCount_iff {v : Value} : isCount v = true ↔
    v = .null ∨ ∃ n, 0 ≤ n ∧ (v = .int n ∨ ∃ x : Double, v = .float x ∧ x.toInt? = some n) := by
  cases v with
  | float x => cases h : x.toInt? <;> simp [isCount, h]
  | _ => simp [isCount]

end Search.Schema

namespace Registry

/-- The most rows that one request of an entity takes. -/
def capOf (r : Registry) (e : Entry) : Int := e.maxLimit.getD r.maxLimit

/-- The number of rows taken of those asked for. -/
def rowsFor (r : Registry) (e : Entry) (asked : Int) : Int :=
  if 0 < asked then min asked (r.capOf e) else min defaultLimit (r.capOf e)

variable {r : Registry} {e : Entry} {name limit : Value}

/-- A count that is nothing or zero asks for no number in particular. -/
theorem unlimited_of_isCount (hc : Search.Schema.isCount limit = true) :
    (if limit.isTruthy then atMostZero limit else .ok true) =
      (.ok (decide (limit.count ≤ 0)) : Except Error Bool) := by
  rcases Search.Schema.isCount_iff.mp hc with rfl | ⟨n, hn, rfl | ⟨x, rfl, hx⟩⟩
  · rfl
  · by_cases h0 : n = 0
    · rw [h0]
      rfl
    · rw [if_pos (by simpa [Value.isTruthy] using h0)]
      rfl
  · have hz := Double.isZero_of_toInt? hx
    have hcount : (Value.float x).count = n := by rw [Value.count, hx, Option.getD_some]
    rw [hcount]
    by_cases h0 : n = 0
    · rw [if_neg (by simp [Value.isTruthy, hz, h0]), h0]
      rfl
    · rw [if_pos (by simp [Value.isTruthy, hz, h0]), atMostZero, Double.lessInt_of_toInt? hx,
        Double.sameInt, hx]
      congr 1
      rw [Bool.eq_iff_iff]
      simp only [Bool.or_eq_true, decide_eq_true_eq, beq_iff_eq, Option.some.injEq]
      omega

theorem capBelow_of_isCount (hc : Search.Schema.isCount limit = true) (hn : 0 < limit.count)
    (cap : Int) : capBelow cap limit = decide (cap < limit.count) := by
  rcases Search.Schema.isCount_iff.mp hc with rfl | ⟨n, -, rfl | ⟨x, rfl, hx⟩⟩
  · exact absurd hn (by decide)
  · rfl
  · rw [capBelow, Double.intLess_of_toInt? hx, Value.count, hx, Option.getD_some]

/-- A count up to the cap is left as it is written. -/
theorem capLimit_of_isCount (he : r.entry name = .ok e)
    (hc : Search.Schema.isCount limit = true) :
    r.capLimit name limit = .ok (if 0 < limit.count ∧ limit.count ≤ r.capOf e then limit
      else .int (r.rowsFor e limit.count)) := by
  have hcap : r.capLimit name limit =
      ((if limit.isTruthy then atMostZero limit else .ok true) >>= fun unlimited =>
        if unlimited then .ok (.int (min defaultLimit (r.capOf e)))
        else if capBelow (r.capOf e) limit then .ok (.int (r.capOf e))
        else .ok limit) := by
    rw [capLimit, he]
    cases limit.isTruthy <;> rfl
  rw [hcap, unlimited_of_isCount hc, Result.ok_bind]
  unfold rowsFor
  by_cases hn : 0 < limit.count
  · have hn' : ¬ limit.count ≤ 0 := by omega
    simp only [hn', decide_false, Bool.false_eq_true, ↓reduceIte, hn, true_and,
      capBelow_of_isCount hc hn, decide_eq_true_eq]
    split_ifs with h1 h2 h2
    · omega
    · rw [Int.min_eq_right (Int.le_of_lt h1)]
    · rfl
    · omega
  · have hn' : limit.count ≤ 0 := by omega
    simp only [hn', decide_true, ↓reduceIte, hn, false_and]

end Registry

/-! ### Plans -/

/-- What is read as a count of rows is nothing or an integer. -/
theorem Options.readCount_eq_ok {what : String} {v : Value} {c : Option Value}
    (h : Options.readCount what v = .ok c) :
    c = Options.countOf v.count ∧ (v = .null ∨ v = .int v.count) := by
  cases v with
  | null => exact ⟨(Except.ok.inj h).symm, .inl rfl⟩
  | int n => exact ⟨(Except.ok.inj h).symm, .inr rfl⟩
  | _ => contradiction

/-- What a request of plain values spells can be written. -/
theorem Search.Request.options_isWritable {r : Search.Request} {o : Options}
    (hc : r.conditions.IsPlain) (hh : r.having.IsPlain) (h : r.options = .ok o) :
    o.IsWritable := by
  obtain ⟨-, -, -, -, hlimit, hoffset⟩ := options_eq_ok.mp h
  have hl := (Options.readCount_eq_ok hlimit).1
  have hm := (Options.readCount_eq_ok hoffset).1
  constructor
  · intro c hmem
    obtain ⟨b, hb, -⟩ := (options_eachCondition hc hh h c hmem).render_values
    exact ⟨b, hb⟩
  · exact fun v hv => ⟨_, Options.integer_of_countOf (hl ▸ hv)⟩
  · exact fun v hv => ⟨_, Options.integer_of_countOf (hm ▸ hv)⟩

namespace Service

variable {r : Registry} {entries : List (Value × Value)} {p : Plan}

/-- The number of rows a plan takes. -/
def taken (r : Registry) (e : Entry) (entries : List (Value × Value)) : Int :=
  r.rowsFor e (Search.Request.ofFields entries).limit.count

/-- The number of rows a plan skips, when it is positive. -/
def skipped (entries : List (Value × Value)) : Int := (Search.Request.ofFields entries).offset.count

/-- A plan takes the rows that its entry allows of those asked for. -/
theorem plan_counts (h : plan r (.map entries) = .ok p) :
    p.request.limit = .int (taken r p.entry entries) ∧
      p.options.limit = Options.countOf (taken r p.entry entries) ∧
      p.options.offset = Options.countOf (skipped entries) := by
  obtain ⟨ha, he, hl, hr, ho⟩ := plan_eq_ok.mp h
  obtain ⟨-, -, -, -, hlimit, hoffset⟩ := Search.Request.options_eq_ok.mp ho
  have hc : Search.Schema.isCount (Search.Request.ofFields entries).limit = true :=
    Search.Schema.field_of_accepts ha rfl rfl
  obtain ⟨hcount, hwritten⟩ := Options.readCount_eq_ok hlimit
  rw [Registry.capLimit_of_isCount he hc] at hl
  have hl := (Except.ok.inj hl).symm
  have htaken : p.request.limit = .int (taken r p.entry entries) := by
    split_ifs at hl with hasked
    · rw [← hl] at hasked
      rcases hwritten with hnull | hint
      · rw [hnull] at hasked
        exact absurd hasked.1 (by decide)
      · rw [taken, Registry.rowsFor, ← hl, if_pos hasked.1, Int.min_eq_left hasked.2]
        exact hint
    · exact hl
  refine ⟨htaken, ?_, ?_⟩
  · rw [hcount, htaken]
    rfl
  · rw [hr] at hoffset
    exact (Options.readCount_eq_ok hoffset).1

/-- The limit of a plan is positive exactly when the cap is. A cap that is not positive is the limit
itself. -/
theorem taken_pos_or (r : Registry) (e : Entry) (entries : List (Value × Value)) :
    (0 < r.capOf e ∧ 0 < taken r e entries) ∨ (r.capOf e ≤ 0 ∧ taken r e entries = r.capOf e) := by
  unfold taken Registry.rowsFor Registry.defaultLimit
  split_ifs <;> omega

/-- A statement selects what a plan selects without paging, and a text after it. -/
def Plan.PagedBy (p : Plan) (paging : String) (b : BoundSql) : Prop :=
  ∃ table whole, Sql.select table p.options.unpaged p.request.columns = .ok whole ∧
    b = ⟨whole.sql ++ paging, whole.args⟩

theorem plan_pagedBy (h : plan r (.map entries) = .ok p) {table : String} {b : BoundSql}
    (hs : Sql.select table p.options p.request.columns = .ok b) :
    p.PagedBy (Options.paging (taken r p.entry entries) (skipped entries)).sql b := by
  obtain ⟨-, hl, hm⟩ := plan_counts h
  obtain ⟨whole, hw, hb⟩ := Sql.select_paged hl hm hs
  exact ⟨table, whole, hw, hb⟩

/-! ### The limit and the cap -/

/-- The limit of a plan is written when the cap of its entry is positive. Otherwise every row is
selected, and the cap is reported as the limit. -/
def Plan.IsLimited (r : Registry) (entries : List (Value × Value)) (p : Plan) (b : BoundSql) :
    Prop :=
  ∃ n, p.request.limit = .int n ∧
    ((0 < r.capOf p.entry ∧ 0 < n ∧
        p.PagedBy (" " ++ Options.limitText n (skipped entries)) b) ∨
      (r.capOf p.entry ≤ 0 ∧ n = r.capOf p.entry ∧ p.PagedBy "" b))

theorem plan_isLimited (h : plan r (.map entries) = .ok p) {table : String} {b : BoundSql}
    (hs : Sql.select table p.options p.request.columns = .ok b) : p.IsLimited r entries b := by
  have hb := plan_pagedBy h hs
  rw [Options.paging_sql] at hb
  refine ⟨_, (plan_counts h).1, ?_⟩
  rcases taken_pos_or r p.entry entries with ⟨hcap, hn⟩ | ⟨hcap, hn⟩
  · rw [if_pos hn] at hb
    exact .inl ⟨hcap, hn, hb⟩
  · rw [if_neg (by omega)] at hb
    exact .inr ⟨hcap, hn, hb⟩

/-- Whatever the registry, the selection of a request has a limit exactly if the cap of its entity
is positive, in what is compiled and in what a search sends. -/
theorem selection_limited_iff (r : Registry) (entries : List (Value × Value)) :
    (∀ w w' v, (compile r (.map entries)).run.run w = (.ok (.body v), w') →
      ∃ p select count, plan r (.map entries) = .ok p ∧ v = preview p select count ∧
        p.IsLimited r entries select) ∧
    ∀ (database : Nat) (w : World), ∃ xs, w.connection.Exchanges xs
        ((search r database (.map entries)).run.run w).2.connection ∧
      ∀ x ∈ xs, ∃ p, plan r (.map entries) = .ok p ∧ p.IsLimited r entries x.statement := by
  constructor
  · intro w w' v h
    obtain ⟨p, select, count, hp, -, hs, -, hv, -⟩ := compile_eq_body.mp h
    exact ⟨p, select, count, hp, hv, plan_isLimited hp hs⟩
  · intro database w
    obtain ⟨xs, hxs, hsel⟩ := (search_reaches r database (.map entries) w).exchanges
    refine ⟨xs, hxs, fun x hx => ?_⟩
    obtain ⟨p, table, hp, hs⟩ := hsel x hx
    exact ⟨p, hp, plan_isLimited hp hs⟩

/-- A mapping file that caps a table at no rows. -/
def zeroCapFile : String :=
  "\x7b\"tables\": \x7b\"users\": \x7b\"maxLimit\": 0\x7d\x7d\x7d"

/-- A request that only names the table. -/
def usersRequest : List (Value × Value) := [(.text "table", .text "users")]

theorem zeroCap_answered :
    ∃ r, (Registry.ofFile "tables.json" 1000).load (some zeroCapFile) = .ok r ∧
      ∃ v w, (compile r (.map usersRequest)).run.run {} = (.ok (.body v), w) ∧
        ∀ p select count, v = preview p select count → select.sql = "SELECT * FROM `users`" := by
  have h : ((Registry.ofFile "tables.json" 1000).load (some zeroCapFile)).toOption.any
      (fun r => ((compile r (.map usersRequest)).run.run {}).1.toOption.any fun response =>
        response.body?.any fun v =>
          v.asEntries.head?.map (·.2.asText) == some "SELECT * FROM `users`") = true := by
    decide +kernel
  generalize (Registry.ofFile "tables.json" 1000).load (some zeroCapFile) = loaded at h ⊢
  rcases loaded with e | r
  · contradiction
  · obtain ⟨v, w, hrun, hv⟩ := answered_of_any h
    refine ⟨r, rfl, v, w, hrun, ?_⟩
    rintro p select count rfl
    exact Option.some.inj (beq_iff_eq.mp hv)

/-- A file that is accepted may turn the limit off. -/
theorem zeroCap_unlimited :
    ∃ r, (Registry.ofFile "tables.json" 1000).load (some zeroCapFile) = .ok r ∧
      ∃ v w, (compile r (.map usersRequest)).run.run {} = (.ok (.body v), w) ∧
        ∃ p select count, v = preview p select count ∧ select.sql = "SELECT * FROM `users`" := by
  obtain ⟨r, hr, v, w, hrun, hall⟩ := zeroCap_answered
  obtain ⟨p, select, count, -, -, -, -, hv, -⟩ := compile_eq_body.mp hrun
  exact ⟨r, hr, v, w, hrun, p, select, count, hv, hall p select count hv⟩

theorem zeroCap_limited_iff :
    ∃ r, (Registry.ofFile "tables.json" 1000).load (some zeroCapFile) = .ok r ∧
      ∃ v w, (compile r (.map usersRequest)).run.run {} = (.ok (.body v), w) ∧
        ∃ p select count, plan r (.map usersRequest) = .ok p ∧ v = preview p select count ∧
          p.IsLimited r usersRequest select := by
  obtain ⟨r, hr, v, w, hrun, -⟩ := zeroCap_answered
  exact ⟨r, hr, v, w, hrun, (selection_limited_iff r usersRequest).1 {} w v hrun⟩

/-! ### Registries with positive caps -/

end Service

/-- Every entity of a registry has a positive cap. -/
structure Registry.IsCapped (r : Registry) : Prop where
  general : 1 ≤ r.maxLimit
  own : ∀ entry ∈ r.entries, ∀ n, entry.2.maxLimit = some n → 1 ≤ n

theorem Registry.IsCapped.one_le_capOf {r : Registry} (hr : r.IsCapped) {name : Value} {e : Entry}
    (he : r.entry name = .ok e) : 1 ≤ r.capOf e := by
  unfold entry at he
  split at he
  · contradiction
  · split at he
    · rename_i found hfound
      obtain rfl := Except.ok.inj he
      obtain ⟨k, -, hmem⟩ := Keyed.mem_of_find? hfound
      unfold capOf
      cases hn : found.maxLimit with
      | none => exact hr.general
      | some n => exact hr.own _ hmem n hn
    · split_ifs at he
      contradiction

namespace Service

variable {r : Registry} {entries : List (Value × Value)} {p : Plan}

/-- A selection takes `n` rows for a plan: the limit that is reported is written after everything
else, with the offset before it when one is asked for. It is positive, never more than the cap, the
limit asked for when that is allowed, and the usual number of rows when none is asked for. -/
structure Plan.Takes (r : Registry) (entries : List (Value × Value)) (p : Plan) (n : Int)
    (b : BoundSql) : Prop where
  applied : p.request.limit = .int n
  positive : 1 ≤ n
  capped : n ≤ r.capOf p.entry
  asked : 0 < (Search.Request.ofFields entries).limit.count →
    (Search.Request.ofFields entries).limit.count ≤ r.capOf p.entry →
    n = (Search.Request.ofFields entries).limit.count
  exceeded : r.capOf p.entry < (Search.Request.ofFields entries).limit.count → n = r.capOf p.entry
  usual : (Search.Request.ofFields entries).limit.count = 0 →
    n = min Registry.defaultLimit (r.capOf p.entry)
  written : p.PagedBy (" LIMIT " ++
    (if 0 < (Search.Request.ofFields entries).offset.count then
      toString (Search.Request.ofFields entries).offset.count ++ ", " else "") ++ toString n) b

theorem plan_takes (hr : r.IsCapped) (h : plan r (.map entries) = .ok p) {table : String}
    {b : BoundSql} (hs : Sql.select table p.options p.request.columns = .ok b) :
    p.Takes r entries (taken r p.entry entries) b := by
  have hcap : 1 ≤ r.capOf p.entry := hr.one_le_capOf (plan_eq_ok.mp h).2.1
  have hn : 0 < taken r p.entry entries := by
    rcases taken_pos_or r p.entry entries with ⟨-, hn⟩ | ⟨hle, -⟩
    · exact hn
    · omega
  refine ⟨(plan_counts h).1, hn, ?_, ?_, ?_, ?_, ?_⟩
  · unfold taken Registry.rowsFor
    split_ifs <;> omega
  · intro hpos hle
    rw [taken, Registry.rowsFor, if_pos hpos, Int.min_eq_left hle]
  · intro hlt
    rw [taken, Registry.rowsFor, if_pos (by omega), Int.min_eq_right (Int.le_of_lt hlt)]
  · intro hzero
    rw [taken, Registry.rowsFor, hzero, if_neg (by decide)]
  · have hb := plan_pagedBy h hs
    rw [Options.paging_sql, if_pos hn] at hb
    have htext : " " ++ Options.limitText (taken r p.entry entries) (skipped entries) = " LIMIT " ++
        (if 0 < (Search.Request.ofFields entries).offset.count then
          toString (Search.Request.ofFields entries).offset.count ++ ", " else "") ++
        toString (taken r p.entry entries) := by
      rw [Options.limitText, ← String.append_assoc, ← String.append_assoc]
      rfl
    rwa [htext] at hb

/-- In a registry with positive caps every selection has a limit, in what is compiled, in what a
search sends, and in what it answers. -/
theorem rows_limited (hr : r.IsCapped) (entries : List (Value × Value)) :
    (∀ w w' v, (compile r (.map entries)).run.run w = (.ok (.body v), w') →
      ∃ p select count n, plan r (.map entries) = .ok p ∧ v = preview p select count ∧
        p.Takes r entries n select) ∧
    ∀ (database : Nat) (w : World), ∃ xs,
      w.connection.Exchanges xs ((search r database (.map entries)).run.run w).2.connection ∧
      (∀ x ∈ xs, ∃ p n, plan r (.map entries) = .ok p ∧ p.Takes r entries n x.statement) ∧
      ∀ v, ((search r database (.map entries)).run.run w).1 = .ok (.body v) →
        ∃ p select rows n, plan r (.map entries) = .ok p ∧ v = found p select rows ∧
          p.Takes r entries n select := by
  constructor
  · intro w w' v h
    obtain ⟨p, select, count, hp, -, hs, -, hv, -⟩ := compile_eq_body.mp h
    exact ⟨p, select, count, _, hp, hv, plan_takes hr hp hs⟩
  · intro database w
    obtain ⟨xs, hxs, hsel⟩ := (search_reaches r database (.map entries) w).exchanges
    refine ⟨xs, hxs, fun x hx => ?_, fun v hv => ?_⟩
    · obtain ⟨p, table, hp, hs⟩ := hsel x hx
      exact ⟨p, _, hp, plan_takes hr hp hs⟩
    · obtain ⟨p, table, select, rows, hp, hs, hb⟩ := search_eq_body (Prod.ext hv rfl)
      exact ⟨p, select, rows, _, hp, hb, plan_takes hr hp hs⟩

/-- One table with a cap of its own. -/
def cappedRegistry : Registry where
  path := ""
  maxLimit := 100
  entries := [(.text "users", { table := "users", maxLimit := some 20 })]
  loaded := true

/-- A request for more rows than the cap, after some rows. -/
def pagedRequest : List (Value × Value) :=
  [(.text "table", .text "users"), (.text "limit", .int 50), (.text "offset", .int 3)]

theorem cappedRegistry_isCapped : cappedRegistry.IsCapped where
  general := by decide
  own := by
    intro entry hentry n hn
    obtain rfl := List.mem_singleton.mp hentry
    obtain rfl := Option.some.inj hn
    decide

/-- A world with one database. -/
def oneDatabase : World := { databases := [{ name := "shop" }] }

theorem pagedRequest_answered : ∃ v w,
    (compile cappedRegistry (.map pagedRequest)).run.run {} = (.ok (.body v), w) := by
  have h : ((compile cappedRegistry (.map pagedRequest)).run.run {}).1.toOption.any
      (fun response => response.body?.any fun _ => true) = true := by decide +kernel
  obtain ⟨v, w, hrun, -⟩ := answered_of_any h
  exact ⟨v, w, hrun⟩

theorem pagedRequest_sent :
    ((search cappedRegistry 0 (.map pagedRequest)).run.run oneDatabase).2.connection.sent.length =
      1 := by
  decide +kernel

theorem pagedRequest_limited : cappedRegistry.IsCapped ∧
    (∃ v w, (compile cappedRegistry (.map pagedRequest)).run.run {} = (.ok (.body v), w) ∧
      ∃ p select count n, plan cappedRegistry (.map pagedRequest) = .ok p ∧
        v = preview p select count ∧ p.Takes cappedRegistry pagedRequest n select) ∧
    ∃ x xs, oneDatabase.connection.Exchanges (x :: xs)
        ((search cappedRegistry 0 (.map pagedRequest)).run.run oneDatabase).2.connection ∧
      ∃ p n, plan cappedRegistry (.map pagedRequest) = .ok p ∧
        p.Takes cappedRegistry pagedRequest n x.statement := by
  obtain ⟨hcompile, hsearch⟩ := rows_limited cappedRegistry_isCapped pagedRequest
  obtain ⟨v, w, hrun⟩ := pagedRequest_answered
  obtain ⟨xs, hxs, htakes, -⟩ := hsearch 0 oneDatabase
  refine ⟨cappedRegistry_isCapped, ⟨v, w, hrun, hcompile {} w v hrun⟩, ?_⟩
  cases xs with
  | nil =>
    have hsent := pagedRequest_sent
    rw [hxs.sent_eq] at hsent
    exact absurd hsent Nat.zero_ne_one
  | cons x xs => exact ⟨x, xs, hxs, htakes x List.mem_cons_self⟩

end Service

end RowQuery

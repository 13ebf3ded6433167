import RowQuery.Proofs.CountPaging
import RowQuery.Proofs.Refusals

/-! Whole numbers written as doubles. The schema takes a double without a fraction for an integer
and the cap compares it as one, but the reader of counts does not take it. So an offset that is
written as a double is refused, and a limit when the cap lets it stand, while a limit that the cap
replaces may be written in either way. -/

namespace RowQuery

/-! ### Numbers -/

namespace Value

variable {u v : Value} {n : Int}

/-- A value writes an integer, as itself or as the double that is equal to it. -/
def Writes (v : Value) (n : Int) : Prop :=
  v = .int n ∨ ∃ x : Double, v = .float x ∧ x.toInt? = some n

/-- Two values are one, or they write the same integer. -/
def SameNumber (u v : Value) : Prop := u = v ∨ ∃ n, u.Writes n ∧ v.Writes n

def IsFloat (v : Value) : Prop := ∃ x, v = .float x

theorem Writes.count_eq (h : v.Writes n) : v.count = n := by
  rcases h with rfl | ⟨x, rfl, hx⟩
  · rfl
  · rw [count, hx, Option.getD_some]

theorem Writes.eq_int (h : v.Writes n) (hv : ¬ v.IsFloat) : v = .int n := by
  rcases h with rfl | ⟨x, rfl, -⟩
  · rfl
  · exact absurd ⟨x, rfl⟩ hv

theorem SameNumber.count_eq (h : SameNumber u v) : u.count = v.count := by
  rcases h with rfl | ⟨n, hu, hv⟩
  · rfl
  · rw [hu.count_eq, hv.count_eq]

/-- Numbers that are not written as doubles are written in one way. -/
theorem SameNumber.eq_of_not_isFloat (h : SameNumber u v) (hu : ¬ u.IsFloat) (hv : ¬ v.IsFloat) :
    u = v := by
  rcases h with rfl | ⟨n, hun, hvn⟩
  · rfl
  · rw [hun.eq_int hu, hvn.eq_int hv]

end Value

/-- What is read as a count is not written as a double. -/
theorem Options.not_isFloat_of_readCount {what : String} {v : Value} {c : Option Value}
    (h : readCount what v = .ok c) : ¬ v.IsFloat := by
  rintro ⟨x, rfl⟩
  contradiction

namespace Service

open Search Schema

variable {r : Registry} {es ds entries : List (Value × Value)} {e : Entry} {w : World}

/-! ### Requests that differ in how their counts are written -/

/-- Two objects with the same fields, but for how limit and offset are written. -/
structure SameCounts (es ds : List (Value × Value)) : Prop where
  unpaged : Request.SameUnpaged es ds
  limit : (Request.ofFields es).limit.SameNumber (Request.ofFields ds).limit
  offset : (Request.ofFields es).offset.SameNumber (Request.ofFields ds).offset

/-- The limit of a request is one that an entity's cap leaves as it is written. -/
abbrev LimitStands (r : Registry) (e : Entry) (entries : List (Value × Value)) : Prop :=
  0 < (Request.ofFields entries).limit.count ∧
    (Request.ofFields entries).limit.count ≤ r.capOf e

/-- What is left of the counts once they are capped is not written as doubles. -/
structure ReadsCounts (r : Registry) (e : Entry) (entries : List (Value × Value)) : Prop where
  limit : LimitStands r e entries → ¬ (Request.ofFields entries).limit.IsFloat
  offset : ¬ (Request.ofFields entries).offset.IsFloat

/-- A limit that does not stand gives way to a number that depends on no writing. -/
theorem capLimit_eq (ha : accepts (.map entries) = true)
    (he : r.entry (.text (Request.ofFields entries).table) = .ok e) :
    r.capLimit (.text (Request.ofFields entries).table) (Request.ofFields entries).limit =
      .ok (if LimitStands r e entries then (Request.ofFields entries).limit
        else .int (r.rowsFor e (Request.ofFields entries).limit.count)) := by
  have hcount : isCount (Request.ofFields entries).limit = true := field_of_accepts ha rfl rfl
  exact Registry.capLimit_of_isCount he hcount

namespace SameCounts

theorem table_eq (h : SameCounts es ds) :
    (Request.ofFields es).table = (Request.ofFields ds).table := by
  have htable := congrArg Request.table (Request.ofFields_unpaged h.unpaged)
  exact htable

theorem limitStands_iff (h : SameCounts es ds) : LimitStands r e es ↔ LimitStands r e ds := by
  rw [LimitStands, LimitStands, h.limit.count_eq]

/-- Requests whose counts are read have the same limit once it is capped. -/
theorem capLimit_eq (h : SameCounts es ds) (ha : accepts (.map es) = true)
    (hb : accepts (.map ds) = true)
    (he : r.entry (.text (Request.ofFields es).table) = .ok e)
    (hes : ReadsCounts r e es) (hds : ReadsCounts r e ds) :
    r.capLimit (.text (Request.ofFields es).table) (Request.ofFields es).limit =
      r.capLimit (.text (Request.ofFields ds).table) (Request.ofFields ds).limit := by
  rw [Service.capLimit_eq ha he, Service.capLimit_eq hb (h.table_eq ▸ he)]
  by_cases hstands : LimitStands r e es
  · have hstands' := h.limitStands_iff.mp hstands
    rw [if_pos hstands, if_pos hstands',
      h.limit.eq_of_not_isFloat (hes.limit hstands) (hds.limit hstands')]
  · rw [if_neg hstands, if_neg (mt h.limitStands_iff.mpr hstands), h.limit.count_eq]

/-- So they are the same request of the same entity. -/
theorem entryOf_eq (h : SameCounts es ds) (ha : accepts (.map es) = true)
    (hb : accepts (.map ds) = true)
    (hreads : ∀ e, r.entry (.text (Request.ofFields es).table) = .ok e →
      ReadsCounts r e es ∧ ReadsCounts r e ds) : entryOf r (.map es) = entryOf r (.map ds) := by
  rw [entryOf, entryOf, ofValue_map_eq_ok.mpr ⟨ha, rfl⟩, ofValue_map_eq_ok.mpr ⟨hb, rfl⟩,
    Result.ok_bind, Result.ok_bind]
  cases he : r.entry (.text (Request.ofFields es).table) with
  | error c =>
    rw [← h.table_eq, he]
    rfl
  | ok e =>
    obtain ⟨hes, hds⟩ := hreads e he
    have hcap := h.capLimit_eq ha hb he hes hds
    have hoffset := h.offset.eq_of_not_isFloat hes.offset hds.offset
    have hunpaged := Request.ofFields_unpaged h.unpaged
    have hrequest : ∀ limit, ({ Request.ofFields es with limit } : Request) =
        { Request.ofFields ds with limit } := by
      intro limit
      calc ({ Request.ofFields es with limit } : Request)
          = { (Request.ofFields es).unpaged with limit, offset := (Request.ofFields es).offset } :=
            rfl
        _ = { (Request.ofFields ds).unpaged with limit, offset := (Request.ofFields ds).offset } :=
            by rw [hunpaged, hoffset]
    rw [h.table_eq] at he
    rw [hcap, he, Result.ok_bind, Result.ok_bind]
    simp only [hrequest]

end SameCounts

/-! ### Answers -/

/-- The service sees no more of a payload than its request and entity. -/
theorem compile_congr {payload payload' : Value} (h : entryOf r payload = entryOf r payload') :
    compile r payload = compile r payload' := by
  rw [compile, compile, prepare_eq, prepare_eq, h]

/-- A count that is still written as a double when it is read is refused. -/
theorem compile_refuses (hj : (Value.map entries).isJson = true)
    (ha : accepts (.map entries) = true)
    (he : r.entry (.text (Request.ofFields entries).table) = .ok e)
    (hreads : ¬ ReadsCounts r e entries) (w : World) : ∃ response,
      ((compile r (.map entries)).run.run w).1 = .ok response ∧ response.status? = some 400 := by
  have hn : .text (Request.ofFields entries).table ∈ r.names := by
    by_contra hn
    rw [Registry.entry_of_not_mem hn] at he
    contradiction
  rcases selection_of_mem hj ha hn with ⟨p, b, hs⟩ | ⟨a, hs⟩
  · exfalso
    obtain ⟨-, hentry, hlimit, hrequest, hoptions⟩ :=
      plan_eq_ok.mp (namedPlan_eq_ok.mp (selection_eq_ok.mp hs).1).1
    obtain ⟨-, -, -, -, hread, hskip⟩ := Request.options_eq_ok.mp hoptions
    rw [capLimit_eq ha he] at hlimit
    rw [hrequest] at hskip
    refine hreads ⟨fun hstands => ?_, Options.not_isFloat_of_readCount hskip⟩
    rw [if_pos hstands] at hlimit
    rw [Except.ok.inj hlimit]
    exact Options.not_isFloat_of_readCount hread
  · exact ⟨_, compile_of_error hs w, rfl⟩

/-- The counts of a request are read, if its table is registered. -/
def AreCountsRead (r : Registry) (entries : List (Value × Value)) : Prop :=
  ∀ e, r.entry (.text (Request.ofFields entries).table) = .ok e → ReadsCounts r e entries

/-- Two objects of JSON that the schema accepts and that differ only in how limit and offset are
written are answered alike when the counts of both are read, and one whose counts are not read is
refused. -/
theorem compile_of_sameCounts (hes : (Value.map es).isJson = true)
    (hds : (Value.map ds).isJson = true) (ha : accepts (.map es) = true)
    (hb : accepts (.map ds) = true) (h : SameCounts es ds) (r : Registry) (w : World) :
    (AreCountsRead r es → AreCountsRead r ds →
      (compile r (.map es)).run.run w = (compile r (.map ds)).run.run w) ∧
    (¬ AreCountsRead r es → ∃ response, ((compile r (.map es)).run.run w).1 = .ok response ∧
      response.status? = some 400) ∧
    (¬ AreCountsRead r ds → ∃ response, ((compile r (.map ds)).run.run w).1 = .ok response ∧
      response.status? = some 400) := by
  have hrefused : ∀ {entries : List (Value × Value)}, (Value.map entries).isJson = true →
      accepts (.map entries) = true → ¬ AreCountsRead r entries → ∃ response,
        ((compile r (.map entries)).run.run w).1 = .ok response ∧
          response.status? = some 400 := by
    intro entries hj hc hread
    simp only [AreCountsRead, not_forall] at hread
    obtain ⟨e, he, hread⟩ := hread
    exact compile_refuses hj hc he hread w
  refine ⟨fun hread hread' => ?_, hrefused hes ha, hrefused hds hb⟩
  rw [compile_congr (h.entryOf_eq ha hb fun e he => ⟨hread e he, hread' e (h.table_eq ▸ he)⟩)]

/-- A request for some number of users. -/
def usersUpTo (limit : Value) : List (Value × Value) :=
  [(.text "table", .text "users"), (.text "limit", limit)]

theorem usersUpTo_sameCounts {u v : Value} (h : u.SameNumber v) :
    SameCounts (usersUpTo u) (usersUpTo v) where
  unpaged := by
    intro key hlimit hoffset
    simp only [usersUpTo, Value.field?, Keyed.find?, Value.beq_text_iff, Value.text.injEq,
      hlimit.symm, ↓reduceIte]
  limit := h
  offset := .inl rfl

theorem five_sameNumber : (Value.int 5).SameNumber (.float (.ofInt 5)) :=
  .inr ⟨5, .inl rfl, .inr ⟨_, rfl, by decide⟩⟩

theorem refused_of_any {x : Except Error Response} {status : Nat}
    (h : x.toOption.any (fun response => response.status? == some status) = true) :
    ∃ response, x = .ok response ∧ response.status? = some status := by
  cases x with
  | error e => contradiction
  | ok response => exact ⟨response, rfl, beq_iff_eq.mp h⟩

/-- Five users are selected or refused, depending on how the five is written. -/
theorem fiveUsers_told_apart :
    ∃ r, (Registry.ofFile "tables.json" 1000).load (some usersFile) = .ok r ∧
      SameCounts (usersUpTo (.int 5)) (usersUpTo (.float (.ofInt 5))) ∧
      accepts (.map (usersUpTo (.int 5))) = true ∧
      accepts (.map (usersUpTo (.float (.ofInt 5)))) = true ∧
      (∃ v u, (compile r (.map (usersUpTo (.int 5)))).run.run {} = (.ok (.body v), u)) ∧
      ∃ response, ((compile r (.map (usersUpTo (.float (.ofInt 5))))).run.run {}).1 =
        .ok response ∧ response.status? = some 400 := by
  have h : ((Registry.ofFile "tables.json" 1000).load (some usersFile)).toOption.any
      (fun r => (((compile r (.map (usersUpTo (.int 5)))).run.run {}).1.toOption.any
          fun response => response.body?.any fun _ => true) &&
        ((compile r (.map (usersUpTo (.float (.ofInt 5))))).run.run {}).1.toOption.any
          fun response => response.status? == some 400) = true := by
    decide +kernel
  generalize (Registry.ofFile "tables.json" 1000).load (some usersFile) = loaded at h ⊢
  rcases loaded with e | r
  · contradiction
  · obtain ⟨hint, hfloat⟩ := Bool.and_eq_true_iff.mp h
    obtain ⟨v, u, hrun, -⟩ := answered_of_any hint
    exact ⟨r, rfl, usersUpTo_sameCounts five_sameNumber, rfl, by decide, ⟨v, u, hrun⟩,
      refused_of_any hfloat⟩

theorem fifty_sameNumber : (Value.int 50).SameNumber (.float (.ofInt 50)) :=
  .inr ⟨50, .inl rfl, .inr ⟨_, rfl, by decide⟩⟩

theorem cappedRegistry_entry : cappedRegistry.entry (.text "users") =
    .ok { table := "users", maxLimit := some 20 } := rfl

theorem usersUpTo_isJson {limit : Value} (h : limit.isJson = true) :
    (Value.map (usersUpTo limit)).isJson = true := by
  refine Value.isJson_map.mpr fun e he => ?_
  simp only [usersUpTo, List.mem_cons, List.not_mem_nil, or_false] at he
  rcases he with rfl | rfl
  · exact ⟨⟨_, rfl⟩, rfl⟩
  · exact ⟨⟨_, rfl⟩, h⟩

/-- More users than the cap are selected up to it in either writing, and five are not. -/
theorem usersUpTo_compiled :
    (AreCountsRead cappedRegistry (usersUpTo (.int 50)) ∧
      AreCountsRead cappedRegistry (usersUpTo (.float (.ofInt 50))) ∧
      (compile cappedRegistry (.map (usersUpTo (.int 50)))).run.run {} =
        (compile cappedRegistry (.map (usersUpTo (.float (.ofInt 50))))).run.run {}) ∧
    ¬ AreCountsRead cappedRegistry (usersUpTo (.float (.ofInt 5))) ∧
      ∃ response, ((compile cappedRegistry (.map (usersUpTo (.float (.ofInt 5))))).run.run {}).1 =
        .ok response ∧ response.status? = some 400 := by
  have hoffset : ∀ limit, ¬ (Request.ofFields (usersUpTo limit)).offset.IsFloat :=
    fun limit h => nomatch h.choose_spec
  have hcapped : ∀ limit, 20 < limit.count → AreCountsRead cappedRegistry (usersUpTo limit) := by
    intro limit hlt e he
    obtain rfl := Except.ok.inj (cappedRegistry_entry.symm.trans he)
    have hlimit : (Request.ofFields (usersUpTo limit)).limit = limit := rfl
    have hcap : cappedRegistry.capOf { table := "users", maxLimit := some 20 } = 20 := rfl
    refine ⟨fun hstands => ?_, hoffset limit⟩
    obtain ⟨-, hle⟩ := hstands
    rw [hlimit, hcap] at hle
    omega
  have hfive : ¬ AreCountsRead cappedRegistry (usersUpTo (.float (.ofInt 5))) := by
    intro h
    exact (h _ cappedRegistry_entry).limit (by decide) ⟨_, rfl⟩
  have hfifty := hcapped (.int 50) (by decide)
  have hfifty' := hcapped (.float (.ofInt 50)) (by decide)
  have halike := (compile_of_sameCounts (usersUpTo_isJson (by decide +kernel))
    (usersUpTo_isJson (by decide +kernel)) rfl (by decide)
    (usersUpTo_sameCounts fifty_sameNumber) cappedRegistry {}).1 hfifty hfifty'
  have hrefused := (compile_of_sameCounts (usersUpTo_isJson (by decide +kernel))
    (usersUpTo_isJson (by decide +kernel)) rfl (by decide)
    (usersUpTo_sameCounts five_sameNumber) cappedRegistry {}).2.2 hfive
  exact ⟨⟨hfifty, hfifty', halike⟩, hfive, hrefused⟩

end Service

end RowQuery

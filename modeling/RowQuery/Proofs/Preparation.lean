import RowQuery.Proofs.Configuring
import RowQuery.Proofs.Reading
import RowQuery.Service.Service

/-! Requests on their way to statements. Reading a request needs nothing of the world and gives a
plan: the request with its limit capped, its entry, and the options of its query. What the compiling
service answers is the plan's statements. -/

namespace RowQuery

open Running

/-! ### Accepted objects -/

namespace Search.Schema

/-- Every field of an accepted object satisfies its schema. -/
theorem schema_of_field? {entries : List (Value × Value)} {key : String} {schema : Value → Bool}
    {v : Value} (h : accepts (.map entries) = true)
    (hs : fields.find? (fun f => f.1 == key) = some (key, schema))
    (hv : Value.field? entries key = some v) : schema v = true := by
  obtain ⟨-, hall⟩ := Bool.and_eq_true_iff.mp h
  have hf := List.all_eq_true.mp hall _ (Value.mem_of_field? hv)
  simp only [isField, hs] at hf
  exact hf

/-- A field that may be missing satisfies its schema as null then. -/
theorem field_of_accepts {entries : List (Value × Value)} {key : String} {schema : Value → Bool}
    (h : accepts (.map entries) = true)
    (hs : fields.find? (fun f => f.1 == key) = some (key, schema))
    (hnull : schema .null = true) : schema ((Value.field? entries key).getD .null) = true := by
  cases hv : Value.field? entries key with
  | none => exact hnull
  | some v => exact schema_of_field? h hs hv

end Search.Schema

namespace Service

open Search Schema

/-- An object that the schema accepts has a text for its table. -/
theorem table_of_accepts {entries : List (Value × Value)}
    (ha : accepts (.map entries) = true) :
    Value.field? entries "table" = some (.text (Request.ofFields entries).table) := by
  obtain ⟨v, hv⟩ := Option.isSome_iff_exists.mp (Bool.and_eq_true_iff.mp ha).1
  have hname : isName v = true := schema_of_field? ha rfl hv
  have htable : (Request.ofFields entries).table = v.display := by
    rw [Request.ofFields, Request.tableOf, hv]
    rfl
  rw [hv, htable]
  cases v with
  | text s => rfl
  | _ => contradiction

/-- Such a table can be written. -/
theorem isWritable_tableOf {entries : List (Value × Value)} (ha : accepts (.map entries) = true) :
    (Request.tableOf entries).isWritable = true := by
  rw [Request.tableOf, table_of_accepts ha]
  rfl

end Service

/-! ### Plans -/

/-- The conditions on groups that are spelled beside a grouping. -/
def Options.readBeside : Option Grouping → Value → Except ArgumentError (Option Condition)
  | none, _ => .ok none
  | some _, having => readHaving none having

/-- The options a request spells. -/
def Search.Request.options (r : Search.Request) : Except ArgumentError Options := do
  let condition ← Condition.ofArguments r.conditions []
  let grouping ← Grouping.read r.grouping
  let having ← Options.readBeside grouping r.having
  let ordering ← Ordering.read r.ordering (.text "ASC")
  let limit ← Options.readCount "limit" r.limit
  let offset ← Options.readCount "offset" r.offset
  return { condition, grouping, having, ordering, limit, offset }

/-- Options are spelled clause by clause. -/
theorem Search.Request.options_eq_ok {r : Search.Request} {o : Options} :
    r.options = .ok o ↔
      Condition.ofArguments r.conditions [] = .ok o.condition ∧
        Grouping.read r.grouping = .ok o.grouping ∧
        Options.readBeside o.grouping r.having = .ok o.having ∧
        Ordering.read r.ordering (.text "ASC") = .ok o.ordering ∧
        Options.readCount "limit" r.limit = .ok o.limit ∧
        Options.readCount "offset" r.offset = .ok o.offset := by
  unfold Search.Request.options
  constructor
  · intro h
    obtain ⟨condition, hc, h⟩ := Result.bind_eq_ok.mp h
    obtain ⟨grouping, hg, h⟩ := Result.bind_eq_ok.mp h
    obtain ⟨having, hh, h⟩ := Result.bind_eq_ok.mp h
    obtain ⟨ordering, hs, h⟩ := Result.bind_eq_ok.mp h
    obtain ⟨limit, hl, h⟩ := Result.bind_eq_ok.mp h
    obtain ⟨offset, ho, h⟩ := Result.bind_eq_ok.mp h
    obtain rfl := Except.ok.inj h
    exact ⟨hc, hg, hh, hs, hl, ho⟩
  · rintro ⟨hc, hg, hh, hs, hl, ho⟩
    rw [hc, hg, Result.ok_bind, Result.ok_bind, hh, hs, hl, ho]
    rfl

namespace Service

/-- A request with its limit capped, its entry, and the options of its query. -/
structure Plan where
  request : Search.Request
  entry : Entry
  options : Options

def plan (r : Registry) (payload : Value) : Except Error Plan := do
  let request ← Search.Request.ofValue payload
  let entry ← r.entry (.text request.table)
  let limit ← r.capLimit (.text request.table) request.limit
  let options ← (Search.Request.options { request with limit }).mapError ArgumentError.toError
  return { request := { request with limit }, entry, options }

/-- An edit leads to the options that a result holds, or fails as the result does. -/
def Leads (a : Edit Unit) (o : Options) : Except ArgumentError Options → Prop
  | .ok p => a.run.run o = (.ok (), p)
  | .error e => ∃ p, a.run.run o = (.error e.toError, p)

namespace Leads

variable {α : Type} {a b : Edit Unit} {o p : Options}

theorem of_edited {r : Except ArgumentError α} {f : α → Options}
    (h : a.run.run o = Options.edited r p f) : Leads a o (r.map f) := by
  cases r with
  | ok x => exact h
  | error e => exact ⟨p, h⟩

theorem bind {r : Except ArgumentError Options} {f : Options → Except ArgumentError Options}
    (ha : Leads a o r) (hb : ∀ p, Leads b p (f p)) : Leads (do a; b) o (r >>= f) := by
  cases r with
  | ok p =>
    have hp := hb p
    rw [Result.ok_bind]
    cases hf : f p with
    | ok q =>
      rw [hf] at hp
      exact (run_bind_of_ok ha _).trans hp
    | error e =>
      rw [hf] at hp
      obtain ⟨q, hq⟩ := hp
      exact ⟨q, (run_bind_of_ok ha _).trans hq⟩
  | error e =>
    obtain ⟨q, hq⟩ := ha
    exact ⟨q, run_bind_of_error hq _⟩

theorem groupBy (key having : Value) (o : Options) :
    Leads (Options.groupBy key having) o (do
      match ← Grouping.read key with
      | none => .ok { o with grouping := none, having := none }
      | some g => (Options.readHaving o.having having).map fun c =>
          { o with grouping := some g, having := c }) := by
  have h := @Options.run_groupBy o key having
  rcases hg : Grouping.read key with e | _ | g <;> rw [hg] at h
  · exact ⟨_, h⟩
  · exact h
  · exact of_edited h

end Leads

/-- The options of a request are those it spells. -/
theorem apply_leads (r : Search.Request) : Leads (apply r) {} r.options := by
  have h : Leads (apply r) {} _ :=
    (Leads.of_edited (Options.run_filterBy r.conditions [])).bind fun o =>
      (Leads.groupBy r.grouping r.having o).bind fun o =>
        (Leads.of_edited (Options.run_sortBy r.ordering (.text "ASC"))).bind fun o =>
          (Leads.of_edited (Options.run_takeRows r.limit)).bind fun o =>
            Leads.of_edited (Options.run_skipRows r.offset)
  convert h using 1
  unfold Search.Request.options
  cases Condition.ofArguments r.conditions [] with
  | error e => rfl
  | ok c =>
    have hpaging : ∀ o : Options, (do
        let o ← (Ordering.read r.ordering (.text "ASC")).map fun g => { o with ordering := g }
        let o ← (Options.readCount "limit" r.limit).map fun n => { o with limit := n }
        (Options.readCount "offset" r.offset).map fun n => { o with offset := n }) = (do
        let ordering ← Ordering.read r.ordering (.text "ASC")
        let limit ← Options.readCount "limit" r.limit
        let offset ← Options.readCount "offset" r.offset
        return { o with ordering, limit, offset }) := by
      intro o
      cases Ordering.read r.ordering (.text "ASC") <;> cases Options.readCount "limit" r.limit <;>
        cases Options.readCount "offset" r.offset <;> rfl
    rcases Grouping.read r.grouping with e | _ | g
    · rfl
    · exact (hpaging { condition := c }).symm
    · have hb : Options.readBeside (some g) r.having = Options.readHaving none r.having := rfl
      simp only [Result.ok_bind, Result.ok_map, hb]
      cases Options.readHaving none r.having with
      | error e => rfl
      | ok having => exact (hpaging { condition := c, grouping := some g, having }).symm

/-- The data of a payload: a text is read as JSON. -/
def dataOf : Value → Except Error Value
  | .text s => (Json.read s).mapError .fault
  | v => .ok v

/-- The request that data describes, when the schema accepts it. -/
def requestOf (data : Value) : Except Error Search.Request :=
  if Search.Schema.accepts data then
    match data with
    | .map entries => .ok (Search.Request.ofFields entries)
    | _ => failWith .attribute
  else failWith (Search.Schema.refusal data)

theorem ofValue_eq (payload : Value) :
    Search.Request.ofValue payload = dataOf payload >>= requestOf := by
  have hcheck : ∀ data : Value, (do
      if true && !Search.Schema.accepts data then failWith (Search.Schema.refusal data)
      match data with
      | .map entries =>
        if (Search.Request.tableOf entries).isWritable then .ok (Search.Request.ofFields entries)
        else failWith .value
      | _ => failWith .attribute) = requestOf data := by
    intro data
    unfold requestOf
    cases ha : Search.Schema.accepts data with
    | false => rfl
    | true =>
      cases data with
      | map entries => exact if_pos (isWritable_tableOf ha)
      | _ => rfl
  unfold Search.Request.ofValue
  split
  · exact bind_congr hcheck
  · rename_i hne
    rw [dataOf, Result.ok_bind]
    · exact hcheck payload
    · exact hne

theorem ofValue_map (entries : List (Value × Value)) :
    Search.Request.ofValue (.map entries) = requestOf (.map entries) := ofValue_eq _

theorem ofValue_map_eq_ok {entries : List (Value × Value)} {request : Search.Request} :
    Search.Request.ofValue (.map entries) = .ok request ↔
      Search.Schema.accepts (.map entries) = true ∧ request = Search.Request.ofFields entries := by
  rw [ofValue_map, requestOf]
  split_ifs with ha
  · rw [Except.ok.injEq, eq_comm, and_iff_right ha]
  · exact iff_of_false (fun h => nomatch h) fun h => ha h.1

/-- A plan is made of an accepted object, the entry it names and the cap of its limit. -/
theorem plan_eq_ok {r : Registry} {entries : List (Value × Value)} {p : Plan} :
    plan r (.map entries) = .ok p ↔
      Search.Schema.accepts (.map entries) = true ∧
        r.entry (.text (Search.Request.ofFields entries).table) = .ok p.entry ∧
        r.capLimit (.text (Search.Request.ofFields entries).table)
          (Search.Request.ofFields entries).limit = .ok p.request.limit ∧
        p.request = { Search.Request.ofFields entries with limit := p.request.limit } ∧
        p.request.options = .ok p.options := by
  constructor
  · intro h
    obtain ⟨request, hr, h⟩ := Result.bind_eq_ok.mp h
    obtain ⟨ha, rfl⟩ := ofValue_map_eq_ok.mp hr
    obtain ⟨entry, he, h⟩ := Result.bind_eq_ok.mp h
    obtain ⟨limit, hl, h⟩ := Result.bind_eq_ok.mp h
    obtain ⟨o, ho, h⟩ := Result.bind_eq_ok.mp h
    obtain rfl := Except.ok.inj h
    exact ⟨ha, he, hl, rfl, Result.mapError_eq_ok.mp ho⟩
  · rintro ⟨ha, he, hl, hr, ho⟩
    rw [hr] at ho
    rw [plan, ofValue_map_eq_ok.mpr ⟨ha, rfl⟩, Result.ok_bind, he, Result.ok_bind, hl,
      Result.ok_bind, ho, Result.ok_mapError, Result.ok_bind, ← hr]
    rfl

/-- A request with its limit capped, and its entry. -/
def entryOf (r : Registry) (payload : Value) : Except Error (Search.Request × Entry) := do
  let request ← Search.Request.ofValue payload
  let entry ← r.entry (.text request.table)
  let limit ← r.capLimit (.text request.table) request.limit
  return ({ request with limit }, entry)

theorem plan_eq (r : Registry) (payload : Value) : plan r payload = (do
    let e ← entryOf r payload
    let options ← e.1.options.mapError ArgumentError.toError
    return { request := e.1, entry := e.2, options }) := by
  simp only [plan, entryOf, bind_assoc, pure_bind]

/-- Preparing reads the request, then finds its table, and reads the options last. -/
theorem prepare_eq (r : Registry) (tableFor : String → Act Table) (payload : Value) :
    prepare r tableFor payload = (do
      let e ← Act.ofExcept (entryOf r payload)
      let table ← tableFor e.2.table
      let options ← Act.ofExcept (e.1.options.mapError ArgumentError.toError)
      return ⟨e.1, e.2, { table, options }⟩) := by
  have hpure : ∀ e : Search.Request × Entry, Act.ofExcept (pure e) = (pure e : Act _) :=
    fun _ => rfl
  simp only [prepare, entryOf, ofExcept_bind, bind_assoc, hpure, pure_bind]
  refine bind_congr fun request => bind_congr fun entry => bind_congr fun limit =>
    bind_congr fun table => ?_
  have ha := apply_leads { request with limit }
  cases ho : Search.Request.options { request with limit } with
  | error e =>
    rw [ho] at ha
    obtain ⟨o, ha⟩ := ha
    simp only [ha]
    rfl
  | ok o =>
    rw [ho, Leads] at ha
    simp only [ha]
    rfl

/-- What is prepared is a plan on the table of its entry. -/
theorem prepare_eq_ok {r : Registry} {tableFor : String → Act Table} {payload : Value}
    {w w' : World} {q : Prepared} : (prepare r tableFor payload).run.run w = (.ok q, w') ↔
      ∃ p table, plan r payload = .ok p ∧
        (tableFor p.entry.table).run.run w = (.ok table, w') ∧
        q = ⟨p.request, p.entry, { table, options := p.options }⟩ := by
  rw [prepare_eq, plan_eq]
  constructor
  · intro h
    obtain ⟨e, he, h⟩ := run_ofExcept_bind_eq_ok.mp h
    obtain ⟨table, u, ht, h⟩ := run_bind_eq_ok.mp h
    obtain ⟨options, ho, h⟩ := run_ofExcept_bind_eq_ok.mp h
    obtain ⟨hq, rfl⟩ := Prod.mk.inj h
    refine ⟨⟨e.1, e.2, options⟩, table, ?_, ht, (Except.ok.inj hq).symm⟩
    rw [he, Result.ok_bind, ho]
    rfl
  · rintro ⟨p, table, hp, ht, rfl⟩
    obtain ⟨e, he, hp⟩ := Result.bind_eq_ok.mp hp
    obtain ⟨options, ho, hp⟩ := Result.bind_eq_ok.mp hp
    obtain rfl := Except.ok.inj hp
    refine run_ofExcept_bind_eq_ok.mpr ⟨e, he, ?_⟩
    refine run_bind_eq_ok.mpr ⟨table, w', ht, ?_⟩
    exact run_ofExcept_bind_eq_ok.mpr ⟨options, ho, rfl⟩

/-- The answer of the compiling service to a plan with these statements. -/
def preview (p : Plan) (select count : BoundSql) : Value :=
  fields [("sql", .text select.sql), ("params", .list select.args),
    ("countSql", .text count.sql), ("countParams", .list count.args),
    ("limitApplied", p.request.limit), ("mappedTable", .text p.entry.table)]

/-- What the service makes of an error: a refusal, or the error itself. -/
def failed (e : Error) : Except Error Response :=
  match statusOf? e with
  | some status => .ok (.refused (.error status e))
  | none => .error e

theorem failed_ne_body (e : Error) (v : Value) : failed e ≠ .ok (.body v) := by
  unfold failed
  split <;> exact fun h => nomatch h

theorem run_answer (a : Act Value) (w : World) : (answer a).run.run w =
    (match (a.run.run w).1 with
      | .ok v => .ok (.body v)
      | .error e => failed e, (a.run.run w).2) := by
  rw [answer, run_tryCatch, run_bind]
  rcases a.run.run w with ⟨e | v, u⟩
  · simp only [failed]
    cases statusOf? e <;> rfl
  · rfl

theorem answer_eq_body {a : Act Value} {w w' : World} {v : Value} :
    (answer a).run.run w = (.ok (.body v), w') ↔ a.run.run w = (.ok v, w') := by
  rw [run_answer]
  rcases a.run.run w with ⟨e | x, t⟩
  · exact iff_of_false (fun h => failed_ne_body e v (Prod.mk.inj h).1) fun h => nomatch h
  · constructor <;>
    · intro h
      cases h
      rfl

/-- The compiling service answers plans whose statements can be built, and only them. -/
theorem compile_eq_body {r : Registry} {payload v : Value} {w w' : World} :
    (compile r payload).run.run w = (.ok (.body v), w') ↔
      ∃ p select count, plan r payload = .ok p ∧ p.entry.table ≠ "" ∧
        Sql.select p.entry.table p.options p.request.columns = .ok select ∧
        Sql.count p.entry.table p.options = .ok count ∧ v = preview p select count ∧
        w' = { w with nextTable := w.nextTable + 1 } := by
  rw [compile, answer_eq_body]
  constructor
  · intro h
    obtain ⟨q, t, hq, h⟩ := run_bind_eq_ok.mp h
    obtain ⟨p, table, hp, ht, rfl⟩ := prepare_eq_ok.mp hq
    obtain ⟨hn, rfl, rfl⟩ := run_addTable_eq_ok.mp ht
    obtain ⟨select, hs, h⟩ := run_ofExcept_bind_eq_ok.mp h
    obtain ⟨count, hc, h⟩ := run_ofExcept_bind_eq_ok.mp h
    obtain ⟨hv, rfl⟩ := Prod.mk.inj h
    exact ⟨p, select, count, hp, hn, hs, hc, (Except.ok.inj hv).symm, rfl⟩
  · rintro ⟨p, select, count, hp, hn, hs, hc, rfl, rfl⟩
    have ht : (World.addTable (.text p.entry.table) none).run.run w =
        (.ok { id := w.nextTable, name := p.entry.table, database := none },
          { w with nextTable := w.nextTable + 1 }) := run_addTable_eq_ok.mpr ⟨hn, rfl, rfl⟩
    refine run_bind_eq_ok.mpr ⟨_, _, prepare_eq_ok.mpr ⟨p, _, hp, ht, rfl⟩, ?_⟩
    refine run_ofExcept_bind_eq_ok.mpr ⟨select, hs, ?_⟩
    exact run_ofExcept_bind_eq_ok.mpr ⟨count, hc, rfl⟩

end Service

end RowQuery

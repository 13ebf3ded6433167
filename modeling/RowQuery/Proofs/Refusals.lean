import RowQuery.Proofs.JsonValues
import RowQuery.Proofs.SearchPreview

/-! Requests that are refused. The keys of a mapping of JSON are texts, so the schema can always name
the entry it refuses. A request that it accepts fails for its table when that is not registered, and
else for an argument of its query at most, so the service answers every object of JSON: what it is
given can be written, and with it the message of a refusal and the numbers of a page. -/

namespace RowQuery

/-! ### Refusals of the schema -/

namespace Search.Schema

/-- Texts have an order, so the two least ones are found. -/
theorem haveLeast_of_texts {keys : List Value} (h : ∀ k ∈ keys, ∃ s, k = .text s)
    (small large : String) : haveLeast (.text small) (.text large) keys = true := by
  have hless : ∀ s t : String, (Value.text s).less? (.text t) = some (decide (s < t)) :=
    fun _ _ => rfl
  induction keys generalizing small large with
  | nil => rfl
  | cons k keys ih =>
    obtain ⟨⟨s, rfl⟩, hkeys⟩ := List.forall_mem_cons.mp h
    -- a key that is less than the larger of the two pushes it out
    rw [haveLeast, hless, hless]
    cases decide (s < large) with
    | false => exact ih hkeys small large
    | true =>
      cases decide (small < s) with
      | false => exact ih hkeys s small
      | true => exact ih hkeys small s

theorem areOrdered_of_texts {keys : List Value} (h : ∀ k ∈ keys, ∃ s, k = .text s) :
    areOrdered keys = true := by
  unfold areOrdered
  split
  · rename_i a b rest
    obtain ⟨⟨s, rfl⟩, htail⟩ := List.forall_mem_cons.mp h
    obtain ⟨⟨t, rfl⟩, hrest⟩ := List.forall_mem_cons.mp htail
    have hless : (Value.text s).less? (.text t) = some (decide (s < t)) := rfl
    rw [hless]
    cases decide (s < t) with
    | false => exact haveLeast_of_texts hrest t s
    | true => exact haveLeast_of_texts hrest s t
  · rfl

/-- A field that is refused, if there is one, has the value of some entry. -/
def IsHeld (entries : List (Value × Value)) (field : Option (String × Value)) : Prop :=
  ∀ f, field = some f → ∃ e ∈ entries, e.2 = f.2

theorem lastWrong_isHeld (entries : List (Value × Value)) : IsHeld entries (lastWrong entries) := by
  have hnone : IsHeld entries none := fun _ h => nomatch h
  -- an entry takes the place of the field before it, or leaves it there
  refine List.foldlRecOn entries _ hnone fun last hlast e he f hf => ?_
  split at hf
  · split_ifs at hf
    exact ⟨e, he, congrArg Prod.snd (Option.some.inj hf)⟩
  · split_ifs at hf
    · exact hlast f hf
    · exact ⟨e, he, congrArg Prod.snd (Option.some.inj hf)⟩
  · exact hlast f hf

theorem wrongKeys_of_isJson {field : Value → Bool} {v : Value} (h : v.isJson = true) :
    ∀ k ∈ wrongKeys field v, ∃ s, k = .text s := by
  unfold wrongKeys
  split
  · intro k hk
    obtain ⟨e, he, rfl⟩ := List.mem_map.mp hk
    exact (Value.isJson_map.mp h e (List.mem_filter.mp he).1).1
  · exact fun _ hk => absurd hk List.not_mem_nil

/-- The schema refuses objects of JSON in its own words. -/
theorem refusal_of_isJson {entries : List (Value × Value)}
    (h : (Value.map entries).isJson = true) : refusal (.map entries) = .schema := by
  have htexts : ∀ k ∈ blamedKeys (.map entries), ∃ s, k = .text s := by
    rw [blamedKeys]
    split_ifs
    · exact fun _ hk => absurd hk List.not_mem_nil
    · split
      · rename_i name v hlast
        obtain ⟨e, he, rfl⟩ := lastWrong_isHeld entries _ hlast
        split
        · exact wrongKeys_of_isJson (Value.isJson_map.mp h e he).2
        · exact fun _ hk => absurd hk List.not_mem_nil
      · exact fun _ hk => absurd hk List.not_mem_nil
  rw [refusal, areOrdered_of_texts htexts, if_pos rfl]

end Search.Schema

namespace Registry

variable {r : Registry} {name : String}

theorem entry_of_mem (h : .text name ∈ r.names) : ∃ e, r.entry (.text name) = .ok e := by
  cases hf : Keyed.find? r.entries (.text name) with
  | none =>
    have hne := Keyed.find?_eq_none_iff.mp hf _ h
    rw [Value.beq_text_iff.mpr rfl] at hne
    contradiction
  | some e => exact ⟨e, by rw [entry, hf]; rfl⟩

theorem entry_of_not_mem (h : .text name ∉ r.names) :
    r.entry (.text name) = .error (.unknownTable (.text name)) := by
  have hf : Keyed.find? r.entries (.text name) = none := by
    refine Keyed.find?_eq_none_iff.mpr fun k hk => Bool.eq_false_iff.mpr fun hb => h ?_
    rwa [Value.beq_text_iff.mp hb] at hk
  rw [entry, hf]
  rfl

end Registry

/-! ### Numbers of JSON -/

/-- A smaller number is not longer. -/
theorem Value.isWritable_of_le {m n : Int} (h : (int n).isWritable = true) (hm : 0 ≤ m)
    (hle : m ≤ n) : (int m).isWritable = true := by
  have habs : m.natAbs ≤ n.natAbs := by omega
  rw [isWritable_int] at h ⊢
  exact habs.trans_lt h

/-- A double has fewer digits than can be written. -/
theorem Double.isWritable_of_toInt? {x : Double} {n : Int} (hx : x.isInRange = true)
    (h : x.toInt? = some n) : (Value.int n).isWritable = true := by
  have hexp : 53 + greatestExponent.toNat ≤ Text.maxDigits := by decide
  rw [Value.isWritable_int]
  calc n.natAbs < 2 ^ (53 + greatestExponent.toNat) := natAbs_lt_of_toInt? hx h
    _ ≤ 10 ^ (53 + greatestExponent.toNat) := Nat.pow_le_pow_left (by decide) _
    _ ≤ 10 ^ Text.maxDigits := Nat.pow_le_pow_right (by decide) hexp

/-- The number that a count of JSON stands for can be written. -/
theorem Value.isWritable_count {v : Value} (hj : v.isJson = true)
    (hc : Search.Schema.isCount v = true) : (int v.count).isWritable = true := by
  obtain ⟨hform, hw⟩ := isJson_iff.mp hj
  rcases Search.Schema.isCount_iff.mp hc with rfl | ⟨n, -, rfl | ⟨x, rfl, hx⟩⟩
  · decide +kernel
  · exact hw
  · rw [count, hx, Option.getD_some]
    exact Double.isWritable_of_toInt? hform hx

namespace Registry

variable {r : Registry} {e : Entry} {name limit v : Value}

/-- The number of rows taken is not longer than what is asked for. -/
theorem isWritable_rowsFor {asked : Int} (h : (Value.int asked).isWritable = true)
    (hpos : 0 < r.rowsFor e asked) : (Value.int (r.rowsFor e asked)).isWritable = true := by
  have hdefault : (Value.int defaultLimit).isWritable = true := by decide +kernel
  unfold rowsFor at hpos ⊢
  split_ifs at hpos ⊢
  · exact Value.isWritable_of_le h hpos.le (Int.min_le_left _ _)
  · exact Value.isWritable_of_le hdefault hpos.le (Int.min_le_left _ _)

/-- A capped count of JSON is an integer, or what it was, and can be written if it is positive. -/
theorem capLimit_of_isJson (he : r.entry name = .ok e) (hj : limit.isJson = true)
    (hc : Search.Schema.isCount limit = true) (h : r.capLimit name limit = .ok v) :
    ((∃ n, v = .int n) ∨ v.isWritable = true) ∧
      ∀ n, v = .int n → 0 < n → (Value.int n).isWritable = true := by
  have hw := (Value.isJson_iff.mp hj).2
  rw [capLimit_of_isCount he hc] at h
  obtain rfl := Except.ok.inj h
  split_ifs
  · exact ⟨.inr hw, fun n hn _ => hn ▸ hw⟩
  · refine ⟨.inl ⟨_, rfl⟩, fun n hn hpos => ?_⟩
    obtain rfl := Value.int.inj hn
    exact isWritable_rowsFor (Value.isWritable_count hj hc) hpos

end Registry

/-- Numbers of rows that can be written make a page that can be. -/
theorem Options.hasShortPage_of_readCount {o : Options} {limit offset : Value}
    (hl : readCount "limit" limit = .ok o.limit) (hm : readCount "offset" offset = .ok o.offset)
    (hlimit : ∀ n, limit = .int n → 0 < n → (Value.int n).isWritable = true)
    (hoffset : ∀ n, offset = .int n → 0 < n → (Value.int n).isWritable = true) :
    o.HasShortPage := by
  have hshort : ∀ {what : String} {given v : Value}, readCount what given = .ok (some v) →
      (∀ n, given = .int n → 0 < n → (Value.int n).isWritable = true) → v.IsShort := by
    intro what given v h hg
    cases given with
    | int n =>
      rw [readCount] at h
      split_ifs at h with hn
      · obtain rfl := Option.some.inj (Except.ok.inj h)
        exact Value.isShort_int (hg n rfl hn)
      · cases h
    | null => cases h
    | _ => contradiction
  intro v hv
  rw [hv] at hl
  refine ⟨hshort hl hlimit, fun w hw => ?_⟩
  rw [hw] at hm
  exact hshort hm hoffset

/-- Whatever a request of writable values spells is told when it is refused. -/
theorem Search.Request.tells_options {r : Request} (hc : r.conditions.isWritable = true)
    (hg : r.grouping.isWritable = true) (hh : r.having.isWritable = true)
    (hs : r.ordering.isWritable = true) (hl : (∃ n, r.limit = .int n) ∨ r.limit.isWritable = true)
    (hm : r.offset.isWritable = true) : Tells r.options := by
  have hbeside : ∀ g, Tells (Options.readBeside g r.having) := by
    intro g
    cases g with
    | none => exact .ok _
    | some g =>
      rw [Options.readBeside, Options.readHaving_none]
      exact Condition.tells_ofArguments hh []
  exact (Condition.tells_ofArguments hc []).bind fun _ => (Grouping.tells_read hg).bind fun g =>
    (hbeside g).bind fun _ => (Ordering.tells_read hs _).bind fun _ =>
      (Options.tells_readCount hl _).bind fun _ =>
        (Options.tells_readCount (.inr hm) _).bind fun _ => .ok _

/-! ### Refusals of the service -/

namespace Service

open Search Schema

variable {r : Registry} {entries : List (Value × Value)}

theorem selection_of_refused (ha : accepts (.map entries) = false) :
    selection r (.map entries) = .error (.fault (refusal (.map entries))) := by
  have hrequest : Request.ofValue (.map entries) = .error (.fault (refusal (.map entries))) := by
    rw [ofValue_map, requestOf, ha]
    rfl
  rw [selection, namedPlan, entryOf, hrequest]
  rfl

theorem selection_of_not_mem (ha : accepts (.map entries) = true)
    (hn : .text (Request.ofFields entries).table ∉ r.names) : selection r (.map entries) =
      .error (.unknownTable (.text (Request.ofFields entries).table)) := by
  rw [selection, namedPlan, entryOf, ofValue_map_eq_ok.mpr ⟨ha, rfl⟩, Result.ok_bind,
    Registry.entry_of_not_mem hn]
  rfl

theorem entryOf_of_mem (ha : accepts (.map entries) = true)
    (hn : .text (Request.ofFields entries).table ∈ r.names) :
    ∃ entry limit, r.entry (.text (Request.ofFields entries).table) = .ok entry ∧
      r.capLimit (.text (Request.ofFields entries).table) (Request.ofFields entries).limit =
        .ok limit ∧
      entryOf r (.map entries) = .ok ({ Request.ofFields entries with limit }, entry) := by
  obtain ⟨entry, he⟩ := Registry.entry_of_mem hn
  have hcount : isCount (Request.ofFields entries).limit = true := field_of_accepts ha rfl rfl
  obtain ⟨limit, hlimit⟩ : ∃ limit, r.capLimit (.text (Request.ofFields entries).table)
      (Request.ofFields entries).limit = .ok limit := ⟨_, Registry.capLimit_of_isCount he hcount⟩
  refine ⟨entry, limit, he, hlimit, ?_⟩
  rw [entryOf, ofValue_map_eq_ok.mpr ⟨ha, rfl⟩, Result.ok_bind, he, Result.ok_bind, hlimit]
  rfl

/-- With a table that is registered, only the arguments of its query are left to fail. -/
theorem selection_of_mem (hj : (Value.map entries).isJson = true)
    (ha : accepts (.map entries) = true)
    (hn : .text (Request.ofFields entries).table ∈ r.names) :
    (∃ p b, selection r (.map entries) = .ok (p, b)) ∨
      ∃ a, selection r (.map entries) = .error (.argument a) := by
  have hfield : ∀ key, ((Value.field? entries key).getD .null).isWritable = true :=
    fun key => (Value.isJson_iff.mp (Value.isJson_field hj key)).2
  have hplain := Value.isPlain_of_isJson _ hj
  obtain ⟨entry, limit, he, hlimit, hentry⟩ := entryOf_of_mem ha hn
  have hcapped := Registry.capLimit_of_isJson he (Value.isJson_field hj "limit")
    (field_of_accepts ha rfl rfl) hlimit
  rw [selection, namedPlan, hentry, Result.ok_bind]
  by_cases htable : entry.table = ""
  · rw [if_pos htable]
    exact .inr ⟨_, rfl⟩
  rw [if_neg htable]
  have htells : Tells (Request.options { Request.ofFields entries with limit }) :=
    Request.tells_options (hfield "conditions") (hfield "group") (hfield "having") (hfield "sort")
      hcapped.1 (hfield "offset")
  rw [htells.mapError]
  cases ho : Request.options { Request.ofFields entries with limit } with
  | error a => exact .inr ⟨a, rfl⟩
  | ok o =>
    have hw := Request.options_isWritable (hplain.field_getD "conditions")
      (hplain.field_getD "having") ho
    obtain ⟨-, -, -, -, hl, hm⟩ := Request.options_eq_ok.mp ho
    have hpage := Options.hasShortPage_of_readCount hl hm hcapped.2
      fun n hn _ => hn ▸ hfield "offset"
    obtain ⟨f, hf⟩ :=
      Sql.select_of_isWritable hw hpage entry.table (Request.ofFields entries).columns
    have hcolumns : Tells ((Sql.projection (Request.ofFields entries).columns).map f) :=
      (Sql.tells_projection (hfield "columns")).map f
    simp only [Result.ok_mapError, Result.ok_bind, pure_bind, hf, hcolumns.mapError]
    cases Sql.projection (Request.ofFields entries).columns with
    | error a => exact .inr ⟨a, rfl⟩
    | ok items => exact .inl ⟨_, _, rfl⟩

/-- The status of a refusal, none for an answer. -/
def Response.status? : Response → Option Nat
  | .body _ => none
  | .refused reason => some reason.status

/-- The compiling service answers every object of JSON, in every world, or refuses it as a wrong
request or for its table. It does the latter exactly when the schema accepts the object and its
table is not registered. -/
theorem compile_answers_or_refuses (h : (Value.map entries).isJson = true) (r : Registry)
    (w : World) : ∃ response, ((compile r (.map entries)).run.run w).1 = .ok response ∧
      ((∃ v, response = .body v) ∨ response.status? = some 400 ∨ response.status? = some 404) ∧
      (response.status? = some 404 ↔ accepts (.map entries) = true ∧
        ∃ name, Value.field? entries "table" = some (.text name) ∧ .text name ∉ r.names) := by
  have hwrong : some 400 ≠ some 404 := by decide
  cases ha : accepts (.map entries) with
  | false =>
    have hs := selection_of_refused (r := r) ha
    rw [refusal_of_isJson h] at hs
    exact ⟨_, compile_of_error hs w, .inr (.inl rfl), iff_of_false hwrong fun h => nomatch h.1⟩
  | true =>
    by_cases hn : .text (Request.ofFields entries).table ∈ r.names
    · have hknown : ¬ ∃ name, Value.field? entries "table" = some (.text name) ∧
          .text name ∉ r.names := by
        rintro ⟨name, hname, hnot⟩
        rw [table_of_accepts ha, Option.some.injEq, Value.text.injEq] at hname
        exact hnot (hname ▸ hn)
      rcases selection_of_mem h ha hn with ⟨p, b, hs⟩ | ⟨a, hs⟩
      · obtain ⟨count, u, hrun⟩ := compile_of_ok hs w
        exact ⟨_, congrArg Prod.fst hrun, .inl ⟨_, rfl⟩,
          iff_of_false (fun h => nomatch h) fun h => hknown h.2⟩
      · exact ⟨_, compile_of_error hs w, .inr (.inl rfl),
          iff_of_false hwrong fun h => hknown h.2⟩
    · have hs := selection_of_not_mem ha hn
      exact ⟨_, compile_of_error hs w, .inr (.inr rfl),
        iff_of_true rfl ⟨rfl, _, table_of_accepts ha, hn⟩⟩

/-- A request with nested conditions for a table that few registries have. -/
def nestedOrders : List (Value × Value) :=
  [(.text "table", .text "orders"),
    (.text "conditions", .list [.list [.list [.text "a = ?", .int 1],
      .map [(.text "or", .list [.list [.text "b"]])]]])]

theorem nestedOrders_isJson : (Value.map nestedOrders).isJson = true := by decide +kernel

theorem nestedOrders_answers_or_refuses : (Value.map nestedOrders).isJson = true ∧
    ∃ response, ((compile cappedRegistry (.map nestedOrders)).run.run {}).1 = .ok response ∧
      ((∃ v, response = .body v) ∨ response.status? = some 400 ∨ response.status? = some 404) ∧
      (response.status? = some 404 ↔ accepts (.map nestedOrders) = true ∧
        ∃ name, Value.field? nestedOrders "table" = some (.text name) ∧
          .text name ∉ cappedRegistry.names) :=
  ⟨nestedOrders_isJson, compile_answers_or_refuses nestedOrders_isJson cappedRegistry {}⟩

end Service

end RowQuery

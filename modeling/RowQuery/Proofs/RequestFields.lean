import RowQuery.Proofs.Agreement
import RowQuery.Proofs.Refusals

/-! Requests written out. A request is written with all of its fields, null for those that the
payload left out, so the schema has to allow null wherever a field may be missing. It does, and the
fields it allows of a payload are those it allows of the request. -/

namespace RowQuery

open Search Schema

namespace Search.Request

/-- The schema allows each field of a request. -/
@[mk_iff]
structure IsAllowed (r : Request) : Prop where
  table : r.table ≠ ""
  columns : isColumns r.columns = true
  conditions : isConditions r.conditions = true
  grouping : isGrouping r.grouping = true
  having : isConditions r.having = true
  ordering : isOrdering r.ordering = true
  limit : isCount r.limit = true
  offset : isCount r.offset = true

variable {r : Request} {payload : Value}

/-- Each field is read back from the key it is written under. -/
theorem ofFields_toFields (r : Request) : ofFields r.toFields = r := rfl

/-- An object of all fields is accepted when each of them is allowed, whatever the others are. -/
theorem accepts_toFields : accepts (.map r.toFields) = true ↔ r.IsAllowed := by
  have htable : isName (.text r.table) = true ↔ r.table ≠ "" := by
    rw [isName_iff]
    constructor
    · rintro ⟨s, hs, hne⟩
      exact Value.text.inj hs ▸ hne
    · exact fun hne => ⟨r.table, rfl, hne⟩
  have hfields : accepts (.map r.toFields) = (isName (.text r.table) && (isColumns r.columns &&
      (isConditions r.conditions && (isGrouping r.grouping && (isConditions r.having &&
      (isOrdering r.ordering && (isCount r.limit && (isCount r.offset && true)))))))) := rfl
  rw [hfields, isAllowed_iff]
  simp only [Bool.and_eq_true, htable, and_true]

/-- Null is allowed in the place of every field but the table, which an accepted object has. -/
theorem isAllowed_ofFields {entries : List (Value × Value)}
    (h : accepts (.map entries) = true) : (ofFields entries).IsAllowed where
  table := by
    obtain ⟨s, hs, hne⟩ := isName_iff.mp (schema_of_field? h rfl (Service.table_of_accepts h))
    exact Value.text.inj hs ▸ hne
  columns := field_of_accepts h rfl rfl
  conditions := field_of_accepts h rfl rfl
  grouping := field_of_accepts h rfl rfl
  having := field_of_accepts h rfl rfl
  ordering := field_of_accepts h rfl rfl
  limit := field_of_accepts h rfl rfl
  offset := field_of_accepts h rfl rfl

/-- Whatever a request was read from, a text or a mapping, it is allowed. -/
theorem isAllowed_of_ofValue (h : ofValue payload = .ok r) : r.IsAllowed := by
  rw [Service.ofValue_eq] at h
  obtain ⟨data, -, h⟩ := Result.bind_eq_ok.mp h
  unfold Service.requestOf at h
  split_ifs at h with ha
  · cases data with
    | map entries =>
      obtain rfl := Except.ok.inj h
      exact isAllowed_ofFields ha
    | _ => contradiction
  · contradiction

/-- Allowed requests are those that are read from what they are written as. -/
theorem ofValue_toFields_eq_ok : ofValue (.map r.toFields) = .ok r ↔ r.IsAllowed := by
  rw [Service.ofValue_map_eq_ok, accepts_toFields, ofFields_toFields]
  exact and_iff_left rfl

/-- Applied to new queries, two requests leave them with the same options or fail for the same
argument. -/
def AppliesLike (r s : Request) : Prop :=
  ∀ (table : Table) (w : World),
    (∃ options, (Query.configure (Service.apply r)).run.run ({ table }, w) =
        (.ok (), { table, options }, w) ∧
      (Query.configure (Service.apply s)).run.run ({ table }, w) =
        (.ok (), { table, options }, w)) ∨
    ∃ (a : ArgumentError) (q : Query),
      (Query.configure (Service.apply r)).run.run ({ table }, w) = (.error a.toError, q, w) ∧
        (Query.configure (Service.apply s)).run.run ({ table }, w) = (.error a.toError, q, w)

theorem appliesLike_refl (r : Request) : r.AppliesLike r := by
  intro table w
  have hrun : (Query.configure (Service.apply r)).run.run ({ table }, w) =
      (((Service.apply r).run.run {}).1,
        { table, options := ((Service.apply r).run.run {}).2 }, w) := rfl
  have hleads := Service.apply_leads r
  cases ho : r.options with
  | ok o =>
    rw [ho, Service.Leads] at hleads
    rw [hleads] at hrun
    exact .inl ⟨o, hrun, hrun⟩
  | error a =>
    rw [ho] at hleads
    obtain ⟨o, hleads⟩ := hleads
    rw [hleads] at hrun
    exact .inr ⟨a, _, hrun, hrun⟩

/-- A request that was read is written as an object that the schema accepts and that is read as the
same request. -/
theorem reread (h : ofValue payload = .ok r) :
    accepts (.map r.toFields) = true ∧
      ∃ s, ofValue (.map r.toFields) = .ok s ∧ s = r ∧ s.AppliesLike r := by
  have hr := isAllowed_of_ofValue h
  exact ⟨accepts_toFields.mpr hr, r, ofValue_toFields_eq_ok.mpr hr, rfl, appliesLike_refl r⟩

/-- A text that leaves most of the fields out. -/
def shortText : Value :=
  .text "\x7b\"sort\": [\"age\", [\"id\", \"desc\"]], \"table\": \"users\", \"limit\": 2.0\x7d"

theorem shortText_reread : ∃ r, ofValue shortText = .ok r ∧ accepts (.map r.toFields) = true ∧
    ∃ s, ofValue (.map r.toFields) = .ok s ∧ s = r ∧ s.AppliesLike r := by
  have hread : (ofValue shortText).isOk = true := by decide +kernel
  cases h : ofValue shortText with
  | ok r => exact ⟨r, rfl, reread h⟩
  | error e =>
    rw [h] at hread
    contradiction

end Search.Request

end RowQuery

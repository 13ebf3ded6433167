import RowQuery.Proofs.WellFormed

/-! Settings that fail. A setting is all or nothing, except for a grouping whose conditions cannot be
read: the new columns are kept and the conditions stay as they were. Other failed settings can be left
out of a configuration, and such a grouping can be replaced by the one without conditions. -/

namespace RowQuery

namespace Options

/-! ### One setting -/

namespace Setting

/-- The options that a setting leads to when all of its arguments can be read. -/
def target : Setting → Options → Except ArgumentError Options
  | .filterBy value args, o =>
    (Condition.ofArguments value args).map fun c => { o with condition := c }
  | .groupBy key having, o => do
    match ← Grouping.read key with
    | none => return { o with grouping := none, having := none }
    | some g => (readHaving o.having having).map fun c => { o with grouping := some g, having := c }
  | .sortBy key direction, o => (Ordering.read key direction).map fun g => { o with ordering := g }
  | .takeRows value, o => (readCount "limit" value).map fun n => { o with limit := n }
  | .skipRows value, o => (readCount "offset" value).map fun n => { o with offset := n }

/-- The columns that a setting groups by, when they can be read. -/
def grouping? : Setting → Option Grouping
  | .groupBy key _ => (Grouping.read key).toOption.join
  | _ => none

end Setting

theorem edited_map {α : Type} (r : Except ArgumentError α) (o : Options) (f : α → Options) :
    edited r o f = match r.map f with
      | .ok p => (.ok (), p)
      | .error e => (.error e.toError, o) := by
  cases r <;> rfl

/-- A setting leads to the options that its arguments spell, or fails and keeps no more of them than
the columns it groups by. -/
theorem run_edit (s : Setting) (o : Options) :
    s.edit.run.run o = match s.target o with
      | .ok p => (.ok (), p)
      | .error e => (.error e.toError, { o with grouping := s.grouping?.or o.grouping }) := by
  cases s with
  | filterBy value args => exact (run_filterBy value args).trans (edited_map ..)
  | sortBy key direction => exact (run_sortBy key direction).trans (edited_map ..)
  | takeRows value => exact (run_takeRows value).trans (edited_map ..)
  | skipRows value => exact (run_skipRows value).trans (edited_map ..)
  | groupBy key having =>
    rw [Setting.edit, run_groupBy, Setting.target, Setting.grouping?]
    rcases Grouping.read key with e | _ | g
    · rfl
    · rfl
    · exact edited_map ..

theorem Setting.apply_of_error {s : Setting} {o : Options} {e : ArgumentError}
    (h : s.target o = .error e) :
    s.apply o = { o with grouping := s.grouping?.or o.grouping } := by
  rw [apply, run_edit, h]

theorem map_fails_or_leads {α : Type} (r : Except ArgumentError α) (f : Options → α → Options) :
    (∃ e, ∀ o, r.map (f o) = .error e) ∨ ∀ o, ∃ p, r.map (f o) = .ok p := by
  cases r with
  | error e => exact .inl ⟨e, fun _ => rfl⟩
  | ok x => exact .inr fun o => ⟨f o x, rfl⟩

/-- Whether a setting fails, and how, depends on its arguments alone. -/
theorem Setting.fails_or_leads (s : Setting) :
    (∃ e, ∀ o, s.target o = .error e) ∨ ∀ o, ∃ p, s.target o = .ok p := by
  cases s with
  | filterBy value args => exact map_fails_or_leads ..
  | sortBy key direction => exact map_fails_or_leads ..
  | takeRows value => exact map_fails_or_leads ..
  | skipRows value => exact map_fails_or_leads ..
  | groupBy key having =>
    simp only [target]
    rcases Grouping.read key with e | _ | g
    · exact .inl ⟨e, fun _ => rfl⟩
    · exact .inr fun o => ⟨_, rfl⟩
    · simp only [Result.ok_bind]
      unfold readHaving
      split
      · exact .inr fun o => ⟨_, rfl⟩
      · exact map_fails_or_leads ..

/-! ### A whole configuration -/

namespace Setting

/-- What is left of a setting that fails: the grouping without its conditions, when its columns can be
read. -/
def remainder : Setting → Option Setting
  | .groupBy key _ => match Grouping.read key with
    | .ok (some _) => some (.groupBy key .null)
    | _ => none
  | _ => none

/-- The setting that does what another one does and does not fail, if that one does anything. -/
def effective (s : Setting) : Option Setting :=
  match s.target {} with
  | .ok _ => some s
  | .error _ => s.remainder

theorem target_groupBy_null {key : Value} {g : Grouping} (h : Grouping.read key = .ok (some g))
    (o : Options) : (groupBy key .null).target o = .ok { o with grouping := some g } := by
  rw [target, h]
  rfl

theorem remainder_configured (s : Setting) (o : Options) :
    o.configured s.remainder.toList = { o with grouping := s.grouping?.or o.grouping } := by
  cases s with
  | groupBy key having =>
    simp only [remainder, grouping?]
    rcases h : Grouping.read key with e | _ | g
    · rfl
    · rfl
    · change (groupBy key .null).apply o = _
      rw [apply, run_edit, target_groupBy_null h]
      rfl
  | _ => rfl

theorem remainder_leads {s t : Setting} (h : s.remainder = some t) (o : Options) :
    ∃ p, t.target o = .ok p := by
  cases s with
  | groupBy key having =>
    simp only [remainder] at h
    split at h
    · rename_i hk
      cases h
      exact ⟨_, target_groupBy_null hk o⟩
    · cases h
  | _ => cases h

theorem effective_configured (s : Setting) (o : Options) :
    o.configured s.effective.toList = s.apply o := by
  obtain ⟨e, he⟩ | hok := s.fails_or_leads
  · rw [effective, he, apply_of_error (he o)]
    exact s.remainder_configured o
  · obtain ⟨p, hp⟩ := hok {}
    rw [effective, hp]
    rfl

theorem effective_leads {s t : Setting} (h : s.effective = some t) (o : Options) :
    ∃ p, t.target o = .ok p := by
  obtain ⟨e, he⟩ | hok := s.fails_or_leads
  · rw [effective, he] at h
    exact remainder_leads h o
  · obtain ⟨p, hp⟩ := hok {}
    rw [effective, hp] at h
    cases h
    exact hok o

end Setting

/-- A configuration is that of its effective settings, none of which fails. -/
theorem configured_effective (o : Options) (settings : List Setting) :
    o.configured settings = o.configured (settings.filterMap Setting.effective) ∧
      ∀ s ∈ settings.filterMap Setting.effective, ∀ p : Options, ∃ p', s.target p = .ok p' := by
  constructor
  · induction settings generalizing o with
    | nil => rfl
    | cons s settings ih =>
      have hs : o.configured (s :: settings) = (s.apply o).configured settings := rfl
      rw [hs, ih, ← s.effective_configured, ← configured_append, List.filterMap_cons]
      cases s.effective <;> rfl
  · intro t ht
    obtain ⟨s, -, hs⟩ := List.mem_filterMap.mp ht
    exact Setting.effective_leads hs

end Options

/-! ### Queries -/

namespace Query

variable {q q' : Query} {w w' : World} {s : Options.Setting} {e : Error}

/-- A deletion on a grouped query is refused. -/
theorem toSql_delete_of_grouped (hg : q.options.grouping.isSome) (columns values : Value) :
    ∃ keys, q.toSql (.text "delete") columns values = .error (.clauses "delete" keys) := by
  have hr : Statement.delete.refused q.options ≠ [] := by
    rw [Options.refused_delete, ne_eq, List.filter_eq_nil_iff]
    exact fun h => h .grouping (by simp) hg
  exact ⟨_, Statement.build_refused hr⟩

/-- A configuring call that fails changes the grouping and nothing else. -/
theorem configure_eq_error (h : (configure s.edit).run.run (q, w) = (.error e, q', w')) :
    w' = w ∧
      q' = { q with options :=
        { q.options with grouping := s.grouping?.or q.options.grouping } } := by
  rw [run_configure, Prod.mk.injEq, Prod.mk.injEq] at h
  obtain ⟨he, rfl, rfl⟩ := h
  refine ⟨rfl, ?_⟩
  cases hs : s.target q.options with
  | ok p =>
    rw [Options.run_edit, hs] at he
    cases he
  | error e => exact congrArg (fun o => { q with options := o }) (Options.Setting.apply_of_error hs)

/-- A configuring call that fails leaves the query as it was exactly when the columns it groups by, if
it groups and they can be read, are those that the query was grouped by. Else the query is grouped by
them, with its other options as before, and nothing can be deleted through it. -/
theorem failed_configure_iff (h : (configure s.edit).run.run (q, w) = (.error e, q', w')) :
    w' = w ∧
      (q' = q ↔ ∀ g, s.grouping? = some g → q.options.grouping = some g) ∧
      ∀ g, s.grouping? = some g →
        q' = { q with options := { q.options with grouping := some g } } ∧
          ∀ columns values, ∃ keys,
            q'.toSql (.text "delete") columns values = .error (.clauses "delete" keys) := by
  obtain ⟨hw, rfl⟩ := configure_eq_error h
  refine ⟨hw, ⟨fun hq g hg => ?_, fun hg => ?_⟩, fun g hg => ?_⟩
  · have hgroup := congrArg (fun q : Query => q.options.grouping) hq
    rw [← hgroup, hg, Option.some_or]
  · have hgroup : s.grouping?.or q.options.grouping = q.options.grouping := by
      cases hs : s.grouping? with
      | none => exact Option.none_or
      | some g => rw [Option.some_or, hg g hs]
    rw [hgroup]
  · simp only [hg, Option.some_or]
    exact ⟨trivial, toSql_delete_of_grouped rfl⟩

/-- A query on all users. -/
def ofUsers : Query where
  table := { id := 0, name := "users", database := none }

/-- A grouping by cities whose condition lacks its value. -/
def halfGrouping : Options.Setting := .groupBy (.text "city") (.list [.text "COUNT(*) > ?"])

/-- The call fails, and the query selects other rows after it. -/
theorem halfGrouping_regroups : ∃ e q,
    (configure halfGrouping.edit).run.run (ofUsers, {}) = (.error e, q, {}) ∧
      q.options ≠ ofUsers.options ∧
      ofUsers.toSql (.text "select") .null .null = .ok ⟨"SELECT * FROM `users`", []⟩ ∧
      q.toSql (.text "select") .null .null =
        .ok ⟨"SELECT * FROM `users` GROUP BY `city`", []⟩ := by
  refine ⟨_, _, rfl, fun h => ?_, rfl, rfl⟩
  have hgroup := congrArg Options.grouping h
  revert hgroup
  decide

theorem halfGrouping_undeletable : ∃ e q,
    (configure halfGrouping.edit).run.run (ofUsers, {}) = (.error e, q, {}) ∧ q ≠ ofUsers ∧
      ∃ keys, q.toSql (.text "delete") .null .null = .error (.clauses "delete" keys) := by
  have hrun : ∃ e q, (configure halfGrouping.edit).run.run (ofUsers, {}) = (.error e, q, {}) :=
    ⟨_, _, rfl⟩
  obtain ⟨e, q, h⟩ := hrun
  have hg : halfGrouping.grouping? = some ["city"] := by decide
  obtain ⟨-, hiff, hleft⟩ := failed_configure_iff h
  have hne : q ≠ ofUsers := by
    intro hq
    cases hiff.mp hq _ hg
  exact ⟨e, q, h, hne, (hleft _ hg).2 .null .null⟩

end Query

end RowQuery

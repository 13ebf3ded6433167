import Mathlib.Data.List.DropRight
import RowQuery.Proofs.FailedSettings

/-! The order of settings. A setting reads and changes the part of the options that belongs to its
clause, so a clause ends up as if the settings of the other clauses had never been made, and
settings of two clauses may change places. Within a clause the last setting counts, except that
conditions on groups stay until others are given or the grouping is cleared. -/

namespace RowQuery

open Running

namespace Options

variable {o p : Options} {ss ts : List Setting} {s : Setting} {k : Clause}

/-! ### Settings of one clause -/

/-- The clause a setting belongs to; conditions on groups come with the grouping. -/
def Setting.clause : Setting → Clause
  | .filterBy _ _ => .condition
  | .groupBy _ _ => .grouping
  | .sortBy _ _ => .ordering
  | .takeRows _ => .limit
  | .skipRows _ => .offset

/-- The part of options that the settings of a clause decide. -/
def part (o : Options) : Clause → Options
  | .condition => { condition := o.condition }
  | .grouping => { grouping := o.grouping, having := o.having }
  | .having => {}
  | .ordering => { ordering := o.ordering }
  | .limit => { limit := o.limit }
  | .offset => { offset := o.offset }

theorem eq_of_parts (h : ∀ k, o.part k = p.part k) : o = p := by
  cases o
  cases p
  rw [mk.injEq]
  exact ⟨congrArg condition (h .condition), congrArg grouping (h .grouping),
    congrArg having (h .grouping), congrArg ordering (h .ordering), congrArg limit (h .limit),
    congrArg offset (h .offset)⟩

/-- A setting leaves the parts of other clauses as they were. -/
theorem part_apply_of_ne (h : s.clause ≠ k) (o : Options) : (s.apply o).part k = o.part k := by
  have hedited : ∀ {α : Type} {r : Except ArgumentError α} {p : Options} {f : α → Options},
      p.part k = o.part k → (∀ x, (f x).part k = o.part k) →
        (edited r p f).2.part k = o.part k :=
    fun hp hf => edited_induction (P := fun p => p.part k = o.part k) hp fun x _ => hf x
  cases s with
  | filterBy value args =>
    rw [Setting.apply, Setting.edit, run_filterBy]
    refine hedited rfl fun c => ?_
    cases k <;> first | rfl | exact absurd rfl h
  | groupBy key having =>
    have hset : ∀ g c, ({ o with grouping := g, having := c } : Options).part k = o.part k := by
      intro g c
      cases k <;> first | rfl | exact absurd rfl h
    rw [Setting.apply, Setting.edit, run_groupBy]
    rcases Grouping.read key with e | _ | g
    · rfl
    · exact hset none none
    · exact hedited (hset (some g) o.having) fun c => hset (some g) c
  | sortBy key direction =>
    rw [Setting.apply, Setting.edit, run_sortBy]
    refine hedited rfl fun g => ?_
    cases k <;> first | rfl | exact absurd rfl h
  | takeRows value =>
    rw [Setting.apply, Setting.edit, run_takeRows]
    refine hedited rfl fun n => ?_
    cases k <;> first | rfl | exact absurd rfl h
  | skipRows value =>
    rw [Setting.apply, Setting.edit, run_skipRows]
    refine hedited rfl fun n => ?_
    cases k <;> first | rfl | exact absurd rfl h

/-- What a setting makes of the part of its own clause depends on that part only. -/
theorem part_apply_congr (h : o.part s.clause = p.part s.clause) :
    (s.apply o).part s.clause = (s.apply p).part s.clause := by
  have hedited : ∀ {α : Type} {r : Except ArgumentError α} {f g : α → Options},
      (∀ x, (f x).part s.clause = (g x).part s.clause) →
        (edited r o f).2.part s.clause = (edited r p g).2.part s.clause := by
    intro α r f g hf
    cases r with
    | error e => exact h
    | ok x => exact hf x
  cases s with
  | filterBy value args =>
    simp only [Setting.apply, Setting.edit, run_filterBy]
    exact hedited fun _ => rfl
  | groupBy key having =>
    -- conditions that are not given are those of the part
    have hbefore : o.having = p.having := congrArg (fun o => o.having) h
    simp only [Setting.apply, Setting.edit, run_groupBy, hbefore]
    rcases Grouping.read key with e | _ | g
    · exact h
    · rfl
    · cases readHaving p.having having <;> rfl
  | sortBy key direction =>
    simp only [Setting.apply, Setting.edit, run_sortBy]
    exact hedited fun _ => rfl
  | takeRows value =>
    simp only [Setting.apply, Setting.edit, run_takeRows]
    exact hedited fun _ => rfl
  | skipRows value =>
    simp only [Setting.apply, Setting.edit, run_skipRows]
    exact hedited fun _ => rfl

/-- The settings of other clauses can be left out, as far as the part of one clause goes. -/
theorem part_configured (h : o.part k = p.part k) : (o.configured ss).part k =
    (p.configured (ss.filter fun s => s.clause = k)).part k := by
  induction ss generalizing o p with
  | nil => exact h
  | cons s ss ih =>
    by_cases hs : s.clause = k
    · rw [List.filter_cons_of_pos (by simpa using hs)]
      subst hs
      exact ih (part_apply_congr h)
    · rw [List.filter_cons_of_neg (by simpa using hs)]
      exact ih ((part_apply_of_ne hs o).trans h)

/-- The settings of each clause are the same, in the same order. -/
def SameSettings (ss ts : List Setting) : Prop :=
  ∀ k : Clause, (ss.filter fun s => s.clause = k) = ts.filter fun s => s.clause = k

theorem SameSettings.mem_iff (h : SameSettings ss ts) : s ∈ ss ↔ s ∈ ts := by
  have hfilter : ∀ us : List Setting, s ∈ (us.filter fun u => u.clause = s.clause) ↔ s ∈ us := by
    intro us
    rw [List.mem_filter]
    exact and_iff_left (by simp)
  rw [← hfilter ss, h s.clause, hfilter]

/-- Settings of different clauses may be made in any order, whether they fail or not. -/
theorem SameSettings.configured_eq (h : SameSettings ss ts) (o : Options) :
    o.configured ss = o.configured ts := by
  refine eq_of_parts fun k => ?_
  calc (o.configured ss).part k
      = (o.configured (ss.filter fun s => s.clause = k)).part k := part_configured rfl
    _ = (o.configured (ts.filter fun s => s.clause = k)).part k := by rw [h k]
    _ = (o.configured ts).part k := (part_configured rfl).symm

/-! ### The settings that count -/

section Last

variable {α β : Type} {read : α → Except ArgumentError (Option β)} {f : Setting → Option α}
  {v : Option β} {a : α}

/-- A value is what the last of some arguments spell, and nothing when there are none. -/
def SpellsLast (read : α → Except ArgumentError (Option β)) (args : List α) (v : Option β) : Prop :=
  match args.getLast? with
  | none => v = none
  | some a => read a = .ok v

theorem SpellsLast.concat {args : List α} (h : read a = .ok v) :
    SpellsLast read (args ++ [a]) v := by
  rw [SpellsLast, List.getLast?_concat]
  exact h

theorem SpellsLast.last (h : read a = .ok v) (hf : f s = some a) :
    SpellsLast read ((ss ++ [s]).filterMap f) v := by
  rw [List.filterMap_append, List.filterMap_cons_some hf]
  exact .concat h

theorem SpellsLast.other (h : SpellsLast read (ss.filterMap f) v) (hf : f s = none) :
    SpellsLast read ((ss ++ [s]).filterMap f) v := by
  rwa [List.filterMap_append, List.filterMap_cons_none hf, List.filterMap_nil, List.append_nil]

end Last

namespace Setting

def filter? : Setting → Option (Value × List Value)
  | .filterBy value args => some (value, args)
  | _ => none

def group? : Setting → Option Value
  | .groupBy key _ => some key
  | _ => none

/-- The conditions on groups beside a grouping, unless they are null. -/
def having? : Setting → Option Value
  | .groupBy _ .null => none
  | .groupBy _ having => some having
  | _ => none

def sort? : Setting → Option (Value × Value)
  | .sortBy key direction => some (key, direction)
  | _ => none

def take? : Setting → Option Value
  | .takeRows value => some value
  | _ => none

def skip? : Setting → Option Value
  | .skipRows value => some value
  | _ => none

/-- A setting that clears the grouping. -/
def clears : Setting → Bool
  | .groupBy key _ => match Grouping.read key with
    | .ok none => true
    | _ => false
  | _ => false

end Setting

/-- The conditions on groups that were given since the grouping was last cleared. -/
def havings (ss : List Setting) : List Value :=
  (ss.rtakeWhile fun s => !s.clears).filterMap Setting.having?

theorem havings_of_clears (h : s.clears = true) : havings (ss ++ [s]) = [] := by
  rw [havings, List.rtakeWhile_concat_neg _ _ _ (by simp [h]), List.filterMap_nil]

theorem havings_of_not_clears (h : s.clears = false) :
    havings (ss ++ [s]) = havings ss ++ s.having?.toList := by
  rw [havings, List.rtakeWhile_concat_pos _ _ _ (by simp [h]), List.filterMap_append, havings]
  cases hs : s.having? with
  | none => rw [List.filterMap_cons_none hs]; rfl
  | some v => rw [List.filterMap_cons_some hs]; rfl

/-- The options that settings spell: those of the last setting of each clause, and the last
conditions on groups that were given since the grouping was cleared. -/
structure SpelledBy (ss : List Setting) (o : Options) : Prop where
  condition : SpellsLast (fun a => Condition.ofArguments a.1 a.2) (ss.filterMap Setting.filter?)
    o.condition
  grouping : SpellsLast Grouping.read (ss.filterMap Setting.group?) o.grouping
  having : SpellsLast (fun v => Condition.ofArguments v []) (havings ss) o.having
  ordering : SpellsLast (fun a => Ordering.read a.1 a.2) (ss.filterMap Setting.sort?) o.ordering
  limit : SpellsLast (readCount "limit") (ss.filterMap Setting.take?) o.limit
  offset : SpellsLast (readCount "offset") (ss.filterMap Setting.skip?) o.offset

/-- Conditions that are not given leave the ones before. -/
theorem havings_spelled {key having : Value} {c : Option Condition}
    (hclears : (Setting.groupBy key having).clears = false)
    (h : SpellsLast (fun v => Condition.ofArguments v []) (havings ss) o.having)
    (hc : readHaving o.having having = .ok c) :
    SpellsLast (fun v => Condition.ofArguments v []) (havings (ss ++ [.groupBy key having])) c := by
  rw [havings_of_not_clears hclears]
  unfold readHaving at hc
  split at hc
  · obtain rfl := Except.ok.inj hc
    rwa [Setting.having?, Option.toList_none, List.append_nil]
  · rename_i hnull
    rw [Setting.having?]
    · exact .concat hc
    · exact hnull

/-- One more setting. -/
theorem SpelledBy.concat (h : SpelledBy ss o) (hs : s.target o = .ok p) :
    SpelledBy (ss ++ [s]) p := by
  -- only groupings give conditions on groups
  have hkeep : s.clears = false → s.having? = none → havings (ss ++ [s]) = havings ss := by
    intro hc hn
    rw [havings_of_not_clears hc, hn, Option.toList_none, List.append_nil]
  cases s with
  | filterBy value args =>
    obtain ⟨c, hc, rfl⟩ := Result.map_eq_ok.mp hs
    exact ⟨.last hc rfl, h.grouping.other rfl, (hkeep rfl rfl).symm ▸ h.having,
      h.ordering.other rfl, h.limit.other rfl, h.offset.other rfl⟩
  | sortBy key direction =>
    obtain ⟨g, hg, rfl⟩ := Result.map_eq_ok.mp hs
    exact ⟨h.condition.other rfl, h.grouping.other rfl, (hkeep rfl rfl).symm ▸ h.having,
      .last hg rfl, h.limit.other rfl, h.offset.other rfl⟩
  | takeRows value =>
    obtain ⟨n, hn, rfl⟩ := Result.map_eq_ok.mp hs
    exact ⟨h.condition.other rfl, h.grouping.other rfl, (hkeep rfl rfl).symm ▸ h.having,
      h.ordering.other rfl, .last hn rfl, h.offset.other rfl⟩
  | skipRows value =>
    obtain ⟨n, hn, rfl⟩ := Result.map_eq_ok.mp hs
    exact ⟨h.condition.other rfl, h.grouping.other rfl, (hkeep rfl rfl).symm ▸ h.having,
      h.ordering.other rfl, h.limit.other rfl, .last hn rfl⟩
  | groupBy key having =>
    obtain ⟨g, hg, hs⟩ := Result.bind_eq_ok.mp hs
    cases g with
    | none =>
      obtain rfl := Except.ok.inj hs
      have hclears : (Setting.groupBy key having).clears = true := by rw [Setting.clears, hg]
      refine ⟨h.condition.other rfl, .last hg rfl, ?_, h.ordering.other rfl, h.limit.other rfl,
        h.offset.other rfl⟩
      rw [havings_of_clears hclears]
      rfl
    | some g =>
      obtain ⟨c, hc, rfl⟩ := Result.map_eq_ok.mp hs
      have hclears : (Setting.groupBy key having).clears = false := by rw [Setting.clears, hg]
      exact ⟨h.condition.other rfl, .last hg rfl, havings_spelled hclears h.having hc,
        h.ordering.other rfl, h.limit.other rfl, h.offset.other rfl⟩

/-- All arguments of a setting can be read. -/
def Setting.IsReadable (s : Setting) : Prop := ∀ o, ∃ p, s.target o = .ok p

theorem Setting.IsReadable.of_target (h : s.target o = .ok p) : s.IsReadable := by
  obtain ⟨e, he⟩ | hok := s.fails_or_leads
  · rw [he] at h
    cases h
  · exact hok

theorem Setting.IsReadable.target_eq (h : s.IsReadable) (o : Options) :
    s.target o = .ok (s.apply o) := by
  obtain ⟨p, hp⟩ := h o
  rw [hp, apply, run_edit, hp]

/-- New options that are configured without a failure are those that the settings spell. -/
theorem spelledBy_configured (h : ∀ s ∈ ss, s.IsReadable) :
    SpelledBy ss (({} : Options).configured ss) := by
  induction ss using List.reverseRecOn with
  | nil => exact ⟨rfl, rfl, rfl, rfl, rfl, rfl⟩
  | append_singleton ss s ih =>
    obtain ⟨hss, hs⟩ := List.forall_mem_append.mp h
    rw [configured_append]
    exact (ih hss).concat ((hs s (List.mem_singleton_self s)).target_eq _)

end Options

/-! ### Queries -/

namespace Query

open Options

variable {ss ts : List Setting} {s : Setting} {q q' : Query} {w w' : World}

/-- Configuring calls, one after another. -/
def configureAll : List Setting → QueryAct Unit
  | [] => pure ()
  | s :: ss => do
    configure s.edit
    configureAll ss

/-- Calls succeed when each of them does, and each does when its arguments can be read. -/
theorem run_configureAll_eq_ok : (configureAll ss).run.run (q, w) = (.ok (), q', w') ↔
    (∀ s ∈ ss, s.IsReadable) ∧ q' = q.configured ss ∧ w' = w := by
  induction ss generalizing q with
  | nil =>
    have hrun : (configureAll []).run.run (q, w) = (.ok (), q, w) := rfl
    rw [hrun, Prod.mk.injEq, Prod.mk.injEq]
    constructor
    · rintro ⟨-, rfl, rfl⟩
      exact ⟨fun _ h => absurd h List.not_mem_nil, rfl, rfl⟩
    · rintro ⟨-, rfl, rfl⟩
      exact ⟨rfl, rfl, rfl⟩
  | cons s ss ih =>
    have hrun := run_configure s q w
    rw [run_edit] at hrun
    rw [configureAll, List.forall_mem_cons]
    constructor
    · intro h
      obtain ⟨_, ⟨q₁, w₁⟩, hs, hss⟩ := run_bind_eq_ok.mp h
      rw [hrun, Prod.mk.injEq, Prod.mk.injEq] at hs
      obtain ⟨hok, rfl, rfl⟩ := hs
      obtain ⟨hall, rfl, rfl⟩ := ih.mp hss
      refine ⟨⟨?_, hall⟩, rfl, rfl⟩
      cases ht : s.target q.options with
      | ok o => exact .of_target ht
      | error e =>
        rw [ht] at hok
        contradiction
    · rintro ⟨⟨hs, hall⟩, rfl, rfl⟩
      rw [hs.target_eq] at hrun
      exact run_bind_eq_ok.mpr ⟨(), _, hrun, ih.mpr ⟨hall, rfl, rfl⟩⟩

/-- Whatever order the calls of different clauses are made in, a new query comes out with the same
options and the same statements: the last conditions, ordering, limit and offset count, and the last
conditions on groups since the grouping was cleared. -/
theorem order_of_clauses {table : Table}
    (h : (configureAll ss).run.run ({ table }, w) = (.ok (), q, w')) (hst : SameSettings ss ts) :
    ∃ q', (configureAll ts).run.run ({ table }, w) = (.ok (), q', w') ∧
      q'.options = q.options ∧
      (∀ kind columns values, q'.toSql kind columns values = q.toSql kind columns values) ∧
      SpelledBy ss q.options ∧ SpelledBy ts q.options := by
  obtain ⟨hss, rfl, rfl⟩ := run_configureAll_eq_ok.mp h
  have hts : ∀ s ∈ ts, s.IsReadable := fun s hs => hss s (hst.mem_iff.mpr hs)
  have hq : Query.configured { table } ts = Query.configured { table } ss := by
    rw [configured, configured, hst.configured_eq]
  refine ⟨_, run_configureAll_eq_ok.mpr ⟨hts, rfl, rfl⟩, ?_, ?_, spelledBy_configured hss, ?_⟩
  · rw [hq]
  · intro kind columns values
    rw [hq]
  · rw [← hq]
    exact spelledBy_configured hts

/-- Settings that group, clear the grouping and group again, among others. -/
def regroupedSettings : List Setting :=
  [.filterBy (.text "age > ?") [.int 18],
    .groupBy (.text "age") (.list [.text "COUNT(*) > ?", .int 1]), .takeRows (.int 5),
    .groupBy .null .null, .sortBy (.text "city") (.text "desc"),
    .groupBy (.text "city") (.text "COUNT(*) > 2"), .filterBy (.text "id = ?") [.int 3],
    .groupBy (.list [.text "city", .text "age"]) .null, .skipRows (.int 2)]

/-- The same settings, clause by clause from the last one. -/
def movedSettings : List Setting :=
  [.skipRows (.int 2), .takeRows (.int 5), .sortBy (.text "city") (.text "desc"),
    .groupBy (.text "age") (.list [.text "COUNT(*) > ?", .int 1]), .groupBy .null .null,
    .groupBy (.text "city") (.text "COUNT(*) > 2"),
    .groupBy (.list [.text "city", .text "age"]) .null, .filterBy (.text "age > ?") [.int 18],
    .filterBy (.text "id = ?") [.int 3]]

theorem movedSettings_same : SameSettings regroupedSettings movedSettings := by
  intro k
  cases k <;> rfl

theorem regroupedSettings_succeed : ∃ q, (configureAll regroupedSettings).run.run
    ({ table := ofUsers.table }, {}) = (.ok (), q, {}) := ⟨_, rfl⟩

theorem movedSettings_order : SameSettings regroupedSettings movedSettings ∧ ∃ q q',
    (configureAll regroupedSettings).run.run ({ table := ofUsers.table }, {}) = (.ok (), q, {}) ∧
      (configureAll movedSettings).run.run ({ table := ofUsers.table }, {}) = (.ok (), q', {}) ∧
      q'.options = q.options ∧
      (∀ kind columns values, q'.toSql kind columns values = q.toSql kind columns values) ∧
      SpelledBy regroupedSettings q.options ∧ SpelledBy movedSettings q.options := by
  obtain ⟨q, h⟩ := regroupedSettings_succeed
  obtain ⟨q', h'⟩ := order_of_clauses h movedSettings_same
  exact ⟨movedSettings_same, q, q', h, h'⟩

/-- Clearing the grouping drops its conditions, and grouping anew without any does not. -/
example : (ofUsers.configured (regroupedSettings.take 4)).options.keys = [.condition, .limit] ∧
    (ofUsers.configured regroupedSettings).options.keys = Clause.all := by decide

end Query

end RowQuery

import RowQuery.Proofs.Configuring
import RowQuery.Proofs.Grammar
import RowQuery.Proofs.JsonValues
import RowQuery.Proofs.Paging
import RowQuery.Proofs.Parametricity
import Mathlib.Data.List.Nodup

/-! Options of queries that were configured from plain values. Conditions are trees of leaves that
can be made and of groups with a child at least, columns are trimmed and listed once each, and
numbers are positive. Every setting keeps this up, and so does one that fails, so what a query can
hold is always written; a deletion refuses grouping and nothing else. -/

namespace RowQuery

/-! ### Conditions -/

theorem Value.parts_of_items? {v : Value} {items : List Value} (h : v.items? = some items) :
    v.parts = items := by
  rcases items?_eq_some.mp h with rfl | rfl <;> rfl

theorem Value.IsPlain.ne_condition {v : Value} (h : v.IsPlain) (c : Condition) :
    v ≠ .condition c := by
  cases h with
  | of_parts hc _ => exact hc c

namespace Condition

/-- A tree of leaves that can be made, in which every group has a child. -/
inductive IsProper : Condition → Prop
  | leaf {sql : String} {args : List Value} (h : IsLeaf sql args) : IsProper (.leaf sql args)
  | group {cs : List (Combinator × Condition)} (hne : cs ≠ [])
    (h : ∀ child ∈ cs, IsProper child.2) : IsProper (.group cs)

theorem IsProper.treeOf {c : Condition} (h : c.IsProper) : c.TreeOf IsLeaf := by
  induction h with
  | leaf h => exact .leaf h
  | group _ _ ih => exact .group ih

mutual

/-- A value without ready-made conditions spells a proper one. -/
theorem Spells.isProper : ∀ {v : Value} {c : Condition}, Spells v c → v.IsPlain → c.IsProper
  | _, _, .leaf _ _, hv => absurd rfl (hv.ne_condition _)
  | _, _, .group _, hv => absurd rfl (hv.ne_condition _)
  | _, _, .text h, _ => .leaf h
  | _, _, .texts _ h, _ => .leaf h
  | _, _, .items hi _ h, hv => by
    refine .group ?_ (h.isProper fun u hu => hv.parts (Value.parts_of_items? hi ▸ hu))
    cases h with
    | cons _ _ => exact List.cons_ne_nil _ _

theorem SpellsChild.isProper : ∀ {v : Value} {child : Combinator × Condition},
    SpellsChild v child → v.IsPlain → child.2.IsProper
  | _, _, .pair hi _ h, hv =>
    h.isProper (hv.parts (by rw [Value.parts_of_items? hi]; simp))
  | _, _, .entry _ h, hv => h.isProper (hv.parts (by simp [Value.parts]))
  | _, _, .whole h, hv => h.isProper hv

theorem SpellEach.isProper : ∀ {vs : List Value} {cs : List (Combinator × Condition)},
    SpellEach vs cs → (∀ v ∈ vs, v.IsPlain) → ∀ child ∈ cs, child.2.IsProper
  | _, _, .nil, _ => fun _ hc => absurd hc List.not_mem_nil
  | _, _, .cons h hs, hv => by
    have hfirst := h.isProper (hv _ List.mem_cons_self)
    have hrest := hs.isProper fun v hm => hv v (List.mem_cons_of_mem _ hm)
    exact List.forall_mem_cons.mpr ⟨hfirst, hrest⟩

end

theorem ofArguments_isProper {v : Value} (hv : v.IsPlain) {args : List Value} {c : Condition}
    (h : ofArguments v args = .ok (some c)) : c.IsProper := by
  rcases ofArguments_eq_some h with ⟨s, -, hs⟩ | ⟨-, hread⟩
  · obtain ⟨rfl, hl⟩ := ofText_eq_ok hs
    exact .leaf hl
  · exact (read_eq_ok_iff.mp hread).isProper hv

end Condition

/-! ### Columns -/

/-- A name without blanks around it that is not empty. -/
def IsColumn (name : String) : Prop := Text.trim name = name ∧ name ≠ ""

/-- Some columns, each of them once. -/
structure IsColumnList (columns : List String) : Prop where
  ne_nil : columns ≠ []
  nodup : columns.Nodup
  column : ∀ c ∈ columns, IsColumn c

theorem readColumn_eq_ok {v : Value} {c : String} (h : readColumn v = .ok c) : IsColumn c := by
  unfold readColumn at h
  split at h
  · rename_i s
    dsimp only at h
    split_ifs at h with he
    obtain rfl := Except.ok.inj h
    exact ⟨Text.trim_trim s, by simpa using he⟩
  · contradiction

theorem IsColumnList.singleton {c : String} (h : IsColumn c) : IsColumnList [c] where
  ne_nil := List.cons_ne_nil c []
  nodup := List.nodup_singleton c
  column := by
    intro d hd
    rwa [List.mem_singleton.mp hd]

/-- Columns that may be repeated are listed once each as keys of entries. -/
theorem IsColumnList.ofList {β : Type} {added : List (String × β)} (hne : added ≠ [])
    (h : ∀ c ∈ Keyed.keys added, IsColumn c) :
    IsColumnList (Keyed.keys (Keyed.ofList added)) where
  ne_nil := by
    obtain ⟨e, es, rfl⟩ := List.exists_cons_of_ne_nil hne
    exact List.ne_nil_of_mem (Keyed.mem_keys_ofList.mpr List.mem_cons_self)
  nodup := Keyed.nodup_keys_ofList added
  column := fun c hc => h c (Keyed.mem_keys_ofList.mp hc)

theorem Direction.word_eq (d : Direction) : d.word = "ASC" ∨ d.word = "DESC" := by
  cases d with
  | ascending => exact .inl rfl
  | descending => exact .inr rfl

theorem Grouping.read_eq_some {v : Value} {g : Grouping} (h : read v = .ok (some g)) :
    IsColumnList g := by
  have hmany : ∀ items : List Value, items ≠ [] →
      ((items.mapM readColumn).map fun cs => some (ofColumns cs)) = .ok (some g) →
      IsColumnList g := by
    intro items hne h
    obtain ⟨cs, hcs, hg⟩ := Result.map_eq_ok.mp h
    obtain rfl := Option.some.inj hg
    have hkeys : Keyed.keys (cs.map fun c => (c, ())) = cs := by simp [Keyed.keys, Function.comp_def]
    refine .ofList (by simpa using Result.ne_nil_of_mapM hcs hne) fun c hc => ?_
    rw [hkeys] at hc
    obtain ⟨item, -, hi⟩ := Result.exists_of_mem_mapM hcs hc
    exact readColumn_eq_ok hi
  unfold read at h
  split at h
  · cases h
  · split_ifs at h
    · cases h
    · obtain ⟨c, hc, hg⟩ := Result.map_eq_ok.mp h
      obtain rfl := Option.some.inj hg
      exact .singleton (readColumn_eq_ok hc)
  · cases h
  · cases h
  · rename_i items hne
    exact hmany items hne h
  · rename_i items hne
    exact hmany items hne h
  · contradiction

theorem Ordering.readPair_eq_ok {column direction : Value} {p : String × Direction}
    (h : readPair column direction = .ok p) : IsColumn p.1 := by
  obtain ⟨c, hc, rfl⟩ := Result.map_eq_ok.mp h
  exact readColumn_eq_ok hc

theorem Ordering.readItem_eq_ok {v : Value} {p : String × Direction} (h : readItem v = .ok p) :
    IsColumn p.1 := by
  unfold readItem at h
  split at h
  · obtain ⟨c, hc, rfl⟩ := Result.map_eq_ok.mp h
    exact readColumn_eq_ok hc
  · exact readPair_eq_ok h
  · exact readPair_eq_ok h
  · contradiction

theorem Ordering.read_eq_some {key direction : Value} {o : Ordering}
    (h : read key direction = .ok (some o)) : IsColumnList (Keyed.keys o) := by
  have hmany : ∀ {α : Type} (items : List α) (f : α → Except ArgumentError (String × Direction)),
      (∀ item p, f item = .ok p → IsColumn p.1) → items ≠ [] →
      ((items.mapM f).map fun ps => some (ofPairs ps)) = .ok (some o) →
      IsColumnList (Keyed.keys o) := by
    intro α items f hf hne h
    obtain ⟨ps, hps, ho⟩ := Result.map_eq_ok.mp h
    obtain rfl := Option.some.inj ho
    refine .ofList (Result.ne_nil_of_mapM hps hne) fun c hc => ?_
    obtain ⟨p, hp, rfl⟩ := List.mem_map.mp hc
    obtain ⟨item, -, hi⟩ := Result.exists_of_mem_mapM hps hp
    exact hf item p hi
  unfold read at h
  split at h
  · cases h
  · split_ifs at h
    · cases h
    · obtain ⟨p, hp, ho⟩ := Result.map_eq_ok.mp h
      obtain rfl := Option.some.inj ho
      exact .singleton (readPair_eq_ok hp)
  · cases h
  · cases h
  · cases h
  · rename_i entries hne
    exact hmany entries _ (fun _ _ => readPair_eq_ok) hne h
  · rename_i items hne
    exact hmany items _ (fun _ _ => readItem_eq_ok) hne h
  · rename_i items hne
    exact hmany items _ (fun _ _ => readItem_eq_ok) hne h
  · contradiction

/-! ### Options -/

namespace Options

/-- A number of rows is positive. -/
def IsCount (v : Value) : Prop := ∃ n, v = .int n ∧ 0 < n

theorem readCount_isCount {what : String} {v n : Value} (h : readCount what v = .ok (some n)) :
    IsCount n := by
  unfold readCount at h
  split at h
  · cases h
  · rename_i k
    split_ifs at h with hk
    · obtain rfl := Option.some.inj (Except.ok.inj h)
      exact ⟨k, rfl, hk⟩
    · cases h
  · contradiction

/-- What the options of a query look like. Columns of a grouping have no direction, and those of an
ordering have one. -/
structure IsWellFormed (o : Options) : Prop where
  conditions : o.EachCondition Condition.IsProper
  grouped : o.having.isSome → o.grouping.isSome
  grouping : ∀ g, o.grouping = some g → IsColumnList g
  ordering : ∀ g, o.ordering = some g →
    IsColumnList (Keyed.keys g) ∧ ∀ c ∈ g, c.2.word = "ASC" ∨ c.2.word = "DESC"
  limit : ∀ v, o.limit = some v → IsCount v
  offset : ∀ v, o.offset = some v → IsCount v

theorem IsWellFormed.empty : IsWellFormed {} where
  conditions := by
    intro c h
    rcases h with h | h <;> cases h
  grouped := fun h => nomatch h
  grouping := fun _ h => nomatch h
  ordering := fun _ h => nomatch h
  limit := fun _ h => nomatch h
  offset := fun _ h => nomatch h

/-- The conditions among the arguments of a setting hold no ready-made ones. -/
def Setting.IsPlain : Setting → Prop
  | .filterBy value _ => value.IsPlain
  | .groupBy _ having => having.IsPlain
  | _ => True

theorem readHaving_isProper {before after : Option Condition} {v : Value} (hv : v.IsPlain)
    (hb : ∀ c, before = some c → c.IsProper) (h : readHaving before v = .ok after) :
    ∀ c, after = some c → c.IsProper := by
  unfold readHaving at h
  split at h
  · obtain rfl := Except.ok.inj h
    exact hb
  · rintro c rfl
    exact Condition.ofArguments_isProper hv h

variable {o : Options}

theorem IsWellFormed.groupBy (ho : o.IsWellFormed) (key : Value) {having : Value}
    (hv : having.IsPlain) : ((Setting.groupBy key having).apply o).IsWellFormed := by
  have hcondition : ∀ c, o.condition = some c → c.IsProper := fun c hc => ho.conditions c (.inl hc)
  have hhaving : ∀ c, o.having = some c → c.IsProper := fun c hc => ho.conditions c (.inr hc)
  rw [Setting.apply, Setting.edit, run_groupBy]
  split
  · exact ho
  · exact { ho with
      conditions := fun c hc => hc.elim (hcondition c) fun h => nomatch h
      grouped := fun h => nomatch h
      grouping := fun _ h => nomatch h }
  · rename_i g hg
    have hgrouping : ∀ f, some g = some f → IsColumnList f := by
      rintro f ⟨⟩
      exact Grouping.read_eq_some hg
    -- the grouping stays when its conditions cannot be read
    refine edited_induction ?_ fun c hc => ?_
    · exact { ho with
        grouped := fun _ => rfl
        grouping := hgrouping }
    · exact { ho with
        conditions := fun d hd => hd.elim (hcondition d) (readHaving_isProper hv hhaving hc d)
        grouped := fun _ => rfl
        grouping := hgrouping }

/-- Every setting from plain values keeps options well formed, whether it fails or not. -/
theorem IsWellFormed.apply (ho : o.IsWellFormed) {s : Setting} (hs : s.IsPlain) :
    (s.apply o).IsWellFormed := by
  cases s with
  | filterBy value args =>
    rw [Setting.apply, Setting.edit, run_filterBy]
    refine edited_induction ho fun c hc => { ho with conditions := ?_ }
    rintro d (rfl | hd)
    · exact Condition.ofArguments_isProper hs hc
    · exact ho.conditions d (.inr hd)
  | groupBy key having => exact ho.groupBy key hs
  | sortBy key direction =>
    rw [Setting.apply, Setting.edit, run_sortBy]
    refine edited_induction ho fun g hg => { ho with ordering := ?_ }
    rintro f rfl
    exact ⟨Ordering.read_eq_some hg, fun c _ => Direction.word_eq c.2⟩
  | takeRows value =>
    rw [Setting.apply, Setting.edit, run_takeRows]
    refine edited_induction ho fun n hn => { ho with limit := ?_ }
    rintro v rfl
    exact readCount_isCount hn
  | skipRows value =>
    rw [Setting.apply, Setting.edit, run_skipRows]
    refine edited_induction ho fun n hn => { ho with offset := ?_ }
    rintro v rfl
    exact readCount_isCount hn

theorem IsWellFormed.configured (ho : o.IsWellFormed) {settings : List Setting}
    (hs : ∀ s ∈ settings, s.IsPlain) : (o.configured settings).IsWellFormed := by
  induction settings generalizing o with
  | nil => exact ho
  | cons s settings ih =>
    exact ih (ho.apply (hs s List.mem_cons_self)) fun t ht => hs t (List.mem_cons_of_mem s ht)

theorem IsWellFormed.isWritable (ho : o.IsWellFormed) : o.IsWritable where
  conditions := by
    intro c hc
    obtain ⟨b, hb, -⟩ := (ho.conditions c hc).treeOf.render_values
    exact ⟨b, hb⟩
  limit := by
    intro v hv
    obtain ⟨n, rfl, -⟩ := ho.limit v hv
    exact ⟨n, rfl⟩
  offset := by
    intro v hv
    obtain ⟨n, rfl, -⟩ := ho.offset v hv
    exact ⟨n, rfl⟩

/-- What options are compiled to is a statement, unless the numbers of their page are too long to be
written. -/
def Compiles (o : Options) (r : Except Error BoundSql) : Prop :=
  (o.HasShortPage → ∃ b, r = .ok b) ∧ (¬ o.HasShortPage → r = .error (.fault .value))

theorem Compiles.ne_clauses {r : Except Error BoundSql} (h : o.Compiles r) {operation : String}
    {keys : List Clause} : r ≠ .error (.clauses operation keys) := by
  rintro rfl
  by_cases hp : o.HasShortPage
  · obtain ⟨b, hb⟩ := h.1 hp
    cases hb
  · cases h.2 hp

/-- A deletion refuses the grouping and the conditions on groups. -/
theorem refused_delete (o : Options) :
    Statement.delete.refused o = [.grouping, .having].filter o.has := by
  have hextra : Clause.all.filter (fun k => !Clause.writing.contains k) = [.grouping, .having] :=
    rfl
  rw [← hextra]
  exact List.filter_comm ..

theorem refused_of_reading (o : Options) {st : Statement} (hst : st.allowed = Clause.reading) :
    st.refused o = [] := by
  rw [Statement.refused, hst, List.filter_eq_nil_iff]
  intro k _
  cases k <;> decide

theorem IsWellFormed.refused_delete_iff (ho : o.IsWellFormed) :
    Statement.delete.refused o ≠ [] ↔ o.grouping.isSome := by
  have hgrouped := ho.grouped
  rw [refused_delete, ne_eq, List.filter_eq_nil_iff]
  simp only [List.mem_cons, List.not_mem_nil, or_false, forall_eq_or_imp, forall_eq, has]
  tauto

end Options

/-! ### Queries -/

namespace Query

/-- A query whose first conditions are plain is well formed. -/
theorem create_isWellFormed {table : Table} {conditions : List Value} {q : Query}
    (hc : ∀ v ∈ conditions, v.IsPlain) (h : create table conditions = .ok q) :
    q.options.IsWellFormed := by
  unfold create at h
  split at h
  · obtain rfl := Except.ok.inj h
    exact .empty
  · rename_i value args
    have hs : (Options.Setting.filterBy value args).IsPlain := hc value List.mem_cons_self
    have happly := Options.IsWellFormed.empty.apply hs
    split at h
    · rename_i o ho
      obtain rfl := Except.ok.inj h
      rwa [Options.Setting.apply, Options.Setting.edit, ho] at happly
    · cases h

/-- A query on rows of one age. -/
def aged : Query where
  table := { id := 0, name := "users", database := none }
  options := { condition := some (.leaf "age = ?" [.int 3]) }

/-- Settings some of which fail: the second one, after it has set its grouping, and the fifth. -/
def mixedSettings : List Options.Setting :=
  [.groupBy (.list [.text " b", .text "b "]) (.list [.text "n > ?", .int 2]),
    .groupBy (.text "c") (.list [.list []]),
    .sortBy (.map [(.text "a", .text "desc "), (.text " a", .int 1)]) .null,
    .takeRows (.int 5), .takeRows (.text "5"), .skipRows (.int (-3))]

theorem aged_create : create aged.table [.text "age = ?", .int 3] = .ok aged := by
  have hl : Condition.ofText "age = ?" [.int 3] = .ok (.leaf "age = ?" [.int 3]) :=
    Condition.isLeaf_iff.mpr ⟨by decide, by simp [Value.items?]⟩
  have ha : Condition.ofArguments (.text "age = ?") [.int 3] =
      .ok (some (.leaf "age = ?" [.int 3])) := by
    simp [Condition.ofArguments, hl]
  rw [create, Options.run_filterBy, ha]
  rfl

theorem mixedSettings_isPlain : ∀ s ∈ mixedSettings, s.IsPlain := by
  have hcounted : (Value.list [.text "n > ?", .int 2]).IsPlain := Value.isPlain_of_hasJsonForm _ rfl
  have hempty : (Value.list [.list []]).IsPlain := Value.isPlain_of_hasJsonForm _ rfl
  simp [mixedSettings, Options.Setting.IsPlain, hcounted, hempty]

end Query

end RowQuery

import RowQuery.Proofs.JsonValues
import RowQuery.Proofs.RowLimits

/-! Two descriptions of requests: the schema that accepts them, and the readers that make options of
their fields. Each is written without the other. On the values of JSON they agree, but for what the
schema lets through: a column may be blank, an alias empty and a number of rows a double, and
conditions are left to their reader as a whole. -/

namespace RowQuery

open Search Schema

/-! ### What the schema accepts -/

namespace Search.Schema

variable {v : Value}

/-- A value that satisfies exactly one of some schemas satisfies one. -/
theorem exists_of_oneOf {schemas : List (Value → Bool)} (h : oneOf schemas v = true) :
    ∃ p ∈ schemas, p v = true := by
  have hlen : (schemas.filter fun p => p v).length = 1 := beq_iff_eq.mp h
  obtain ⟨p, hp⟩ := List.length_eq_one_iff.mp hlen
  exact ⟨p, List.mem_filter.mp (hp ▸ List.mem_singleton_self p)⟩

theorem isNull_iff : isNull v = true ↔ v = .null := by
  cases v <;> simp [isNull]

theorem isText_iff : isText v = true ↔ ∃ s, v = .text s := by
  cases v <;> simp [isText]

theorem isName_iff : isName v = true ↔ ∃ s, v = .text s ∧ s ≠ "" := by
  cases v <;> simp [isName]

theorem text_of_isName (h : isName v = true) : ∃ s, v = .text s :=
  (isName_iff.mp h).imp fun _ hs => hs.1

theorem isListOf_iff {item : Value → Bool} :
    isListOf item v = true ↔ ∃ items, v = .list items ∧ ∀ i ∈ items, item i = true := by
  cases v <;> simp [isListOf]

theorem isMapOf_iff {field : Value → Bool} :
    isMapOf field v = true ↔ ∃ entries, v = .map entries ∧ ∀ e ∈ entries, field e.2 = true := by
  cases v <;> simp [isMapOf]

theorem isPair_iff : isPair v = true ↔ ∃ s t, v = .list [.text s, .text t] := by
  unfold isPair
  split
  · rw [Bool.and_eq_true, isText_iff, isText_iff]
    constructor
    · rintro ⟨⟨s, rfl⟩, ⟨t, rfl⟩⟩
      exact ⟨s, t, rfl⟩
    · rintro ⟨s, t, h⟩
      cases h
      exact ⟨⟨s, rfl⟩, ⟨t, rfl⟩⟩
  · rename_i hne
    exact iff_of_false Bool.false_ne_true fun ⟨s, t, h⟩ => hne _ _ h

/-- Columns are nothing, one, a list of them, or a mapping from aliases. -/
theorem isColumns_cases (h : isColumns v = true) :
    v = .null ∨ (∃ s, v = .text s) ∨
      (∃ items, v = .list items ∧ ∀ i ∈ items, ∃ s, i = .text s) ∨
      ∃ entries, v = .map entries ∧ ∀ e ∈ entries, ∃ s, e.2 = .text s := by
  obtain ⟨p, hp, h⟩ := exists_of_oneOf h
  simp only [List.mem_cons, List.not_mem_nil, or_false] at hp
  rcases hp with rfl | rfl | rfl | rfl
  · exact .inr (.inl (text_of_isName h))
  · obtain ⟨items, rfl, hi⟩ := isListOf_iff.mp h
    exact .inr (.inr (.inl ⟨items, rfl, fun i hm => text_of_isName (hi i hm)⟩))
  · obtain ⟨entries, rfl, he⟩ := isMapOf_iff.mp h
    exact .inr (.inr (.inr ⟨entries, rfl, fun e hm => text_of_isName (he e hm)⟩))
  · exact .inl (isNull_iff.mp h)

/-- A grouping is nothing, one column, or a list of them. -/
theorem isGrouping_cases (h : isGrouping v = true) :
    v = .null ∨ (∃ s, v = .text s ∧ s ≠ "") ∨
      ∃ items, v = .list items ∧ ∀ i ∈ items, ∃ s, i = .text s := by
  obtain ⟨p, hp, h⟩ := exists_of_oneOf h
  simp only [List.mem_cons, List.not_mem_nil, or_false] at hp
  rcases hp with rfl | rfl | rfl
  · exact .inr (.inl (isName_iff.mp h))
  · obtain ⟨items, rfl, hi⟩ := isListOf_iff.mp h
    exact .inr (.inr ⟨items, rfl, fun i hm => text_of_isName (hi i hm)⟩)
  · exact .inl (isNull_iff.mp h)

/-- An ordering is nothing, one column, a mapping from columns, or a list of columns and pairs. -/
theorem isOrdering_cases (h : isOrdering v = true) :
    v = .null ∨ (∃ s, v = .text s) ∨ (∃ entries, v = .map entries) ∨
      ∃ items, v = .list items ∧
        ∀ i ∈ items, (∃ s, i = .text s) ∨ ∃ s t, i = .list [.text s, .text t] := by
  obtain ⟨p, hp, h⟩ := exists_of_oneOf h
  simp only [List.mem_cons, List.not_mem_nil, or_false] at hp
  rcases hp with rfl | rfl | rfl | rfl
  · exact .inr (.inl (text_of_isName h))
  · obtain ⟨entries, rfl, -⟩ := isMapOf_iff.mp h
    exact .inr (.inr (.inl ⟨entries, rfl⟩))
  · obtain ⟨items, rfl, hi⟩ := isListOf_iff.mp h
    refine .inr (.inr (.inr ⟨items, rfl, fun i hm => ?_⟩))
    obtain ⟨p, hp, h⟩ := exists_of_oneOf (hi i hm)
    simp only [List.mem_cons, List.not_mem_nil, or_false] at hp
    rcases hp with rfl | rfl
    · exact .inl (text_of_isName h)
    · exact .inr (isPair_iff.mp h)
  · exact .inl (isNull_iff.mp h)

end Search.Schema

/-! ### What the readers accept -/

/-- Some character of a text is not blank. -/
def Text.IsVisible (s : String) : Prop := ∃ c ∈ s.toList, isBlank c = false

instance (s : String) : Decidable (Text.IsVisible s) :=
  decidable_of_iff (s.toList.any fun c => !Text.isBlank c) (by simp [Text.IsVisible])

theorem Text.IsVisible.trim_isEmpty {s : String} (h : IsVisible s) : (trim s).isEmpty = false := by
  obtain ⟨c, hc, hv⟩ := h
  obtain ⟨before, after, hs, hb, ha⟩ := exists_trimChars s.toList
  rw [hs] at hc
  have hne : trimChars s.toList ≠ [] := by
    intro hnil
    rw [hnil, List.append_nil] at hc
    have hblank := (List.mem_append.mp hc).elim (hb c) (ha c)
    rw [hv] at hblank
    contradiction
  simpa [trim] using hne

/-- The column that an item of a list names: the first of a pair, or the item itself. -/
def Value.column : Value → Value
  | .list (v :: _) => v
  | v => v

/-- The columns that a field names, alone, in a list, or in one half of the entries of a mapping. -/
def Value.columns (half : Value × Value → Value) : Value → List Value
  | .list items => items.map column
  | .map entries => entries.map half
  | v => [v]

/-- Every text that a field has for a column has a character that is not blank. -/
def Value.HasVisibleColumns (half : Value × Value → Value) (v : Value) : Prop :=
  ∀ s, .text s ∈ v.columns half → Text.IsVisible s

variable {v : Value} {s : String}

theorem Value.hasVisibleColumns_of_eq {half : Value × Value → Value} (names : List String)
    (h : v.columns half = names.map .text) (hn : ∀ s ∈ names, Text.IsVisible s) :
    v.HasVisibleColumns half := by
  intro s hs
  rw [h] at hs
  obtain ⟨t, ht, he⟩ := List.mem_map.mp hs
  exact Value.text.inj he ▸ hn t ht

theorem readColumn_of_isVisible (h : Text.IsVisible s) :
    readColumn (.text s) = .ok (Text.trim s) := by
  simp only [readColumn, h.trim_isEmpty, Bool.false_eq_true, ↓reduceIte]

theorem Sql.projectionItem_of_isVisible (h : Text.IsVisible s) :
    ∃ item, projectionItem (.text s) = .ok item := by
  simp only [projectionItem, h.trim_isEmpty, Bool.false_eq_true, ↓reduceIte]
  split_ifs <;> exact ⟨_, rfl⟩

theorem Sql.aliasedItem_of_isVisible {name : String} (hn : name ≠ "") (h : Text.IsVisible s) :
    ∃ item, aliasedItem (.text name) (.text s) = .ok item := by
  have hname : name.isEmpty = false := by simpa using hn
  obtain ⟨item, hitem⟩ := projectionItem_of_isVisible h
  rw [aliasedItem, hitem, Result.ok_bind]
  simp only [hname, Bool.false_eq_true, ↓reduceIte]
  exact ⟨_, rfl⟩

/-- A grouping that the schema accepts is read, as nothing exactly when it is empty. -/
theorem Grouping.read_of_isGrouping (h : isGrouping v = true)
    (hv : v.HasVisibleColumns (·.1)) :
    ∃ g, read v = .ok g ∧ g.isSome = v.isTruthy := by
  rcases isGrouping_cases h with rfl | ⟨s, rfl, hs⟩ | ⟨items, rfl, hi⟩
  · exact ⟨none, rfl, rfl⟩
  · have hs : s.isEmpty = false := by simpa using hs
    refine ⟨some [Text.trim s], ?_, ?_⟩
    · rw [read, hs, readColumn_of_isVisible (hv s List.mem_cons_self)]
      rfl
    · simp [Value.isTruthy, hs]
  · cases items with
    | nil => exact ⟨none, rfl, rfl⟩
    | cons item items =>
      have hcolumns : ∀ i ∈ item :: items, ∃ c, readColumn i = .ok c := by
        intro i hm
        obtain ⟨s, rfl⟩ := hi i hm
        exact ⟨_, readColumn_of_isVisible (hv s (List.mem_map.mpr ⟨_, hm, rfl⟩))⟩
      obtain ⟨cs, hcs⟩ := Result.exists_mapM hcolumns
      refine ⟨some (ofColumns cs), ?_, rfl⟩
      rw [read, hcs]
      · rfl
      · exact List.cons_ne_nil _ _

theorem Ordering.readItem_ok {item : Value} (hv : ∀ s, item.column = .text s → Text.IsVisible s)
    (hi : (∃ s, item = .text s) ∨ ∃ s t, item = .list [.text s, .text t]) :
    ∃ p, readItem item = .ok p := by
  rcases hi with ⟨s, rfl⟩ | ⟨s, t, rfl⟩
  · exact ⟨_, by rw [readItem, readColumn_of_isVisible (hv s rfl)]; rfl⟩
  · exact ⟨_, by rw [readItem, readPair, readColumn_of_isVisible (hv s rfl)]; rfl⟩

/-- An ordering that the schema accepts is read, whatever the directions are. -/
theorem Ordering.read_of_isOrdering (hj : v.hasJsonForm = true) (h : isOrdering v = true)
    (hv : v.HasVisibleColumns (·.1)) (direction : Value) : ∃ o, read v direction = .ok o := by
  rcases isOrdering_cases h with rfl | ⟨s, rfl⟩ | ⟨entries, rfl⟩ | ⟨items, rfl, hi⟩
  · exact ⟨none, rfl⟩
  · rw [read, readPair, readColumn_of_isVisible (hv s List.mem_cons_self)]
    split_ifs <;> exact ⟨_, rfl⟩
  · cases entries with
    | nil => exact ⟨none, rfl⟩
    | cons entry entries =>
      have hpairs : ∀ e ∈ entry :: entries, ∃ p, readPair e.1 e.2 = .ok p := by
        intro e hm
        obtain ⟨⟨s, hs⟩, -⟩ := Value.hasJsonForm_map.mp hj e hm
        have hvisible := hv s (List.mem_map.mpr ⟨e, hm, hs⟩)
        exact ⟨_, by rw [readPair, hs, readColumn_of_isVisible hvisible]; rfl⟩
      obtain ⟨ps, hps⟩ := Result.exists_mapM hpairs
      refine ⟨some (ofPairs ps), ?_⟩
      rw [read, hps]
      · rfl
      · exact List.cons_ne_nil _ _
  · cases items with
    | nil => exact ⟨none, rfl⟩
    | cons item items =>
      have hitems : ∀ i ∈ item :: items, ∃ p, readItem i = .ok p := fun i hm =>
        readItem_ok (fun s hs => hv s (List.mem_map.mpr ⟨i, hm, hs⟩)) (hi i hm)
      obtain ⟨ps, hps⟩ := Result.exists_mapM hitems
      refine ⟨some (ofPairs ps), ?_⟩
      rw [read, hps]
      · rfl
      · exact List.cons_ne_nil _ _

/-- Columns that the schema accepts are selected, unless an alias is empty. -/
theorem Sql.projection_of_isColumns (hj : v.hasJsonForm = true) (h : isColumns v = true)
    (hv : v.HasVisibleColumns (·.2))
    (ha : ∀ entries, v = .map entries → ∀ e ∈ entries, e.1 ≠ .text "") :
    ∃ items, projection v = .ok items := by
  rcases isColumns_cases h with rfl | ⟨s, rfl⟩ | ⟨items, rfl, hi⟩ | ⟨entries, rfl, he⟩
  · exact ⟨_, rfl⟩
  · obtain ⟨item, hitem⟩ := projectionItem_of_isVisible (hv s List.mem_cons_self)
    exact ⟨_, by rw [projection, hitem]; rfl⟩
  · have hitems : ∀ i ∈ items, ∃ item, projectionItem i = .ok item := by
      intro i hm
      obtain ⟨s, rfl⟩ := hi i hm
      exact projectionItem_of_isVisible (hv s (List.mem_map.mpr ⟨_, hm, rfl⟩))
    obtain ⟨cs, hcs⟩ := Result.exists_mapM hitems
    exact ⟨_, by rw [projection, hcs]; rfl⟩
  · have hitems : ∀ e ∈ entries, ∃ item, aliasedItem e.1 e.2 = .ok item := by
      intro e hm
      obtain ⟨⟨name, hname⟩, -⟩ := Value.hasJsonForm_map.mp hj e hm
      obtain ⟨s, hs⟩ := he e hm
      rw [hname, hs]
      refine aliasedItem_of_isVisible ?_ (hv s (List.mem_map.mpr ⟨e, hm, hs⟩))
      rintro rfl
      exact ha entries rfl e hm hname
    obtain ⟨cs, hcs⟩ := Result.exists_mapM hitems
    exact ⟨_, by rw [projection, hcs]; rfl⟩

/-! ### Requests -/

theorem Options.readCount_of_isCount (h : isCount v = true) (hf : ∀ x, v ≠ .float x)
    (what : String) : ∃ n, readCount what v = .ok n := by
  rcases isCount_iff.mp h with rfl | ⟨n, -, rfl | ⟨x, rfl, -⟩⟩
  · exact ⟨_, rfl⟩
  · exact ⟨_, rfl⟩
  · exact absurd rfl (hf x)

theorem Options.readBeside_eq_error_iff {g : Option Grouping} {having : Value} {a : ArgumentError} :
    readBeside g having = .error a ↔
      g.isSome = true ∧ having ≠ .null ∧ Condition.ofArguments having [] = .error a := by
  cases g with
  | none => exact iff_of_false (fun h => nomatch h) fun h => nomatch h.1
  | some g =>
    rw [readBeside, readHaving_none, Option.isSome_some, eq_self, true_and, iff_and_self]
    rintro h rfl
    cases h

namespace Search.Request

/-- What the readers ask for beyond the schema: columns have a character that is not blank, aliases
have a character, and numbers of rows are no doubles. -/
structure IsReadable (r : Request) : Prop where
  columns : r.columns.HasVisibleColumns (·.2)
  aliases : ∀ entries, r.columns = .map entries → ∀ e ∈ entries, e.1 ≠ .text ""
  grouping : r.grouping.HasVisibleColumns (·.1)
  ordering : r.ordering.HasVisibleColumns (·.1)
  limit : ∀ x, r.limit ≠ .float x
  offset : ∀ x, r.offset ≠ .float x

/-- The selection of a request: it is applied to a query without options on some table, which is
compiled. -/
def selectOn (r : Request) (table : Table) : Except Error BoundSql :=
  match (Service.apply r).run.run {} with
  | (.ok (), options) => Query.toSql { table, options } (.text "select") r.columns .null
  | (.error e, _) => .error e

variable {r : Request}

theorem selectOn_eq (r : Request) (table : Table) : r.selectOn table = (do
    let o ← r.options.mapError ArgumentError.toError
    Sql.select table.name o r.columns) := by
  have h := Service.apply_leads r
  unfold selectOn
  cases ho : r.options with
  | error e =>
    rw [ho] at h
    obtain ⟨o, h⟩ := h
    rw [h]
    rfl
  | ok o =>
    rw [ho, Service.Leads] at h
    rw [h]
    rfl

/-- A request that is read from JSON is an accepted object of JSON. -/
theorem ofValue_eq_ok {payload : Value} (hj : payload.hasJsonForm = true)
    (h : ofValue payload = .ok r) : ∃ entries, (Value.map entries).hasJsonForm = true ∧
      Schema.accepts (.map entries) = true ∧ r = ofFields entries := by
  rw [Service.ofValue_eq] at h
  obtain ⟨data, hd, h⟩ := Result.bind_eq_ok.mp h
  have hdata : data.hasJsonForm = true := by
    unfold Service.dataOf at hd
    split at hd
    · exact (Value.isJson_iff.mp (Json.isJson_of_read (Result.mapError_eq_ok.mp hd))).1
    · obtain rfl := Except.ok.inj hd
      exact hj
  unfold Service.requestOf at h
  split_ifs at h with ha
  · cases data with
    | map entries => exact ⟨entries, hdata, ha, (Except.ok.inj h).symm⟩
    | _ => contradiction
  · contradiction

/-- Options fail with their conditions, or with those beside a grouping, when all else is read. -/
theorem options_eq_error_iff {g : Option Grouping} {o : Option Ordering} {n m : Option Value}
    {a : ArgumentError} (hg : Grouping.read r.grouping = .ok g)
    (ho : Ordering.read r.ordering (.text "ASC") = .ok o)
    (hn : Options.readCount "limit" r.limit = .ok n)
    (hm : Options.readCount "offset" r.offset = .ok m) :
    r.options = .error a ↔ Condition.ofArguments r.conditions [] = .error a ∨
      (∃ c, Condition.ofArguments r.conditions [] = .ok c) ∧
        Options.readBeside g r.having = .error a := by
  rw [options, hg, ho, hn, hm]
  simp only [Result.ok_bind]
  cases Condition.ofArguments r.conditions [] with
  | error e => simp
  | ok c => cases Options.readBeside g r.having <;> simp [pure, Except.pure]

/-- Whatever options a request of plain values spells are selected, when its columns are, unless the
numbers of its page are too long. -/
theorem selectOn_eq_error {items : String} (hi : Sql.projection r.columns = .ok items)
    (hc : r.conditions.IsPlain) (hh : r.having.IsPlain) {table : Table} {e : Error} :
    r.selectOn table = .error e ↔ (∃ a, e = a.toError ∧ r.options = .error a) ∨
      e = .fault .value ∧ ∃ o, r.options = .ok o ∧ ¬ o.HasShortPage := by
  rw [selectOn_eq]
  cases ho : r.options with
  | error a => simp [eq_comm]
  | ok o =>
    have hw := options_isWritable hc hh ho
    rw [Result.ok_mapError, Result.ok_bind]
    by_cases hp : o.HasShortPage
    · obtain ⟨f, hf⟩ := Sql.select_of_isWritable hw hp table.name r.columns
      rw [hf, hi]
      simp [hp]
    · rw [Sql.select_of_longPage hw hp]
      simp [hp, eq_comm]

/-- Groups with a condition on them that lacks its value. -/
def countedGroups : List (Value × Value) :=
  [(.text "table", .text "users"),
    (.text "columns", .map [(.text "age", .text "age"), (.text "n", .text "COUNT(*)")]),
    (.text "group", .list [.text " age"]), (.text "having", .list [.text "n > ?"]),
    (.text "sort", .list [.text "n", .list [.text "age", .text "desc"]]), (.text "limit", .int 5)]

theorem countedGroups_isReadable : (ofFields countedGroups).IsReadable where
  columns := Value.hasVisibleColumns_of_eq ["age", "COUNT(*)"] rfl (by decide)
  aliases := by
    intro entries h e he
    obtain rfl := Value.map.inj (h : Value.map [(.text "age", .text "age"),
      (.text "n", .text "COUNT(*)")] = .map entries)
    simp only [List.mem_cons, List.not_mem_nil, or_false] at he
    rcases he with rfl | rfl <;> simp
  grouping := Value.hasVisibleColumns_of_eq [" age"] rfl (by decide)
  ordering := Value.hasVisibleColumns_of_eq ["n", "age"] rfl (by decide)
  limit := fun x h => nomatch h
  offset := fun x h => nomatch h

end Search.Request

end RowQuery

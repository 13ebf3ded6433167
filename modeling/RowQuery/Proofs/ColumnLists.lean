import RowQuery.Proofs.WellFormed

/-! Lists of columns have one normal form. Columns stand in the order they first occur, trimmed and
without repetition, and a direction is the last one given. Pairs, mappings and bare names spell the
same list, and a list that was read is read from its own items again. -/

namespace RowQuery

namespace Keyed

variable {α β : Type} [BEq α] {added : List (α × β)} {k : α} {v : β}

theorem ofList_concat (added : List (α × β)) (e : α × β) :
    ofList (added ++ [e]) = put (ofList added) e.1 e.2 := List.foldl_append

omit [BEq α] in
theorem keys_append (entries added : List (α × β)) :
    keys (entries ++ added) = keys entries ++ keys added := List.map_append

variable [LawfulBEq α]

/-- Keys stand in the order they first occur. -/
theorem keys_ofList (added : List (α × β)) : keys (ofList added) = (keys added).eraseDups := by
  induction added using List.reverseRecOn with
  | nil => rfl
  | append_singleton added e ih =>
    rw [ofList_concat, keys_append, List.eraseDups_append, ← ih]
    by_cases he : e.1 ∈ keys added
    · have hold : [e.1].removeAll (keys added) = [] := by simp [List.removeAll, he]
      rw [keys_put_of_mem (mem_keys_ofList.mpr he), keys_cons, keys_nil, hold, List.eraseDups_nil,
        List.append_nil]
    · have hnew : [e.1].removeAll (keys added) = [e.1] := by simp [List.removeAll, he]
      rw [put_of_not_mem (mt mem_keys_ofList.mp he), keys_append, keys_cons, keys_nil, hnew,
        List.eraseDups_cons]
      rfl

/-- A key has the value it was given last. -/
theorem last_of_mem_ofList (h : (k, v) ∈ ofList added) :
    ∃ before after, added = before ++ (k, v) :: after ∧ k ∉ keys after := by
  rw [← find?_eq_some_iff (nodup_keys_ofList added)] at h
  induction added using List.reverseRecOn with
  | nil => contradiction
  | append_singleton added e ih =>
    rw [ofList_concat, find?_put] at h
    split_ifs at h with he
    · obtain rfl := beq_iff_eq.mp he
      obtain rfl := Option.some.inj h
      exact ⟨added, [], rfl, List.not_mem_nil⟩
    · obtain ⟨before, after, rfl, hafter⟩ := ih h
      have hlast : k ∉ keys [e] := by
        rw [keys_cons, keys_nil, List.mem_singleton]
        exact fun hk => he (beq_iff_eq.mpr hk.symm)
      refine ⟨before, after ++ [e], by simp, ?_⟩
      rw [keys_append, List.mem_append, not_or]
      exact ⟨hafter, hlast⟩

end Keyed

/-! ### Reading sequences of items -/

theorem readColumn_text {s : String} (h : Text.trim s ≠ "") :
    readColumn (.text s) = .ok (Text.trim s) := by
  rw [readColumn, if_neg (by simpa using h)]

theorem IsColumn.readColumn_eq {c : String} (h : IsColumn c) : readColumn (.text c) = .ok c := by
  rw [readColumn_text (h.1.symm ▸ h.2), h.1]

namespace Direction

theorem read_word (d : Direction) : read (.text d.word) = d := by
  cases d <;> rfl

end Direction

namespace Ordering

variable {v w : Value} {items : List Value} {pairs : List (String × Direction)} {o : Ordering}

/-- A sequence is read item by item, whatever direction stands beside it. -/
theorem read_items (hv : v.items? = some items) (hne : items ≠ []) (direction : Value) :
    read v direction = (items.mapM readItem).map fun ps => some (ofPairs ps) := by
  obtain ⟨item, items, rfl⟩ := List.exists_cons_of_ne_nil hne
  rcases Value.items?_eq_some.mp hv with rfl | rfl <;> rfl

/-- A pair of the name of a column, which is not blank, and a direction. -/
def IsPair (item : Value) (p : String × Direction) : Prop :=
  ∃ column direction, item.items? = some [.text column, direction] ∧ Text.trim column ≠ "" ∧
    p = (Text.trim column, Direction.read direction)

/-- The columns of some pairs in the order they first occur, each with its last direction. -/
structure IsNormalForm (pairs : List (String × Direction)) (o : Ordering) : Prop where
  columns : Keyed.keys o = (Keyed.keys pairs).eraseDups
  last : ∀ c d, (c, d) ∈ o → ∃ before after, pairs = before ++ (c, d) :: after ∧
    c ∉ Keyed.keys after

theorem IsPair.readItem_eq {item : Value} {p : String × Direction} (h : IsPair item p) :
    readItem item = .ok p := by
  obtain ⟨column, direction, hitem, hc, rfl⟩ := h
  rcases Value.items?_eq_some.mp hitem with rfl | rfl
  all_goals
    rw [readItem, readPair, readColumn_text hc]
    rfl

theorem read_pairs (hv : v.items? = some items) (hne : items ≠ [])
    (h : List.Forall₂ IsPair items pairs) (direction : Value) :
    ∃ o, read v direction = .ok (some o) ∧ IsNormalForm pairs o := by
  have hpairs : items.mapM readItem = .ok pairs :=
    Result.mapM_eq_ok.mpr (h.imp fun _ _ hp => hp.readItem_eq)
  refine ⟨ofPairs pairs, ?_, Keyed.keys_ofList pairs, fun c d => Keyed.last_of_mem_ofList⟩
  rw [read_items hv hne, hpairs]
  rfl

/-- A mapping is read as the list of its entries. -/
theorem read_map (entries : List (Value × Value)) (direction : Value) :
    read (.map entries) direction =
      read (.list (entries.map fun e => .tuple [e.1, e.2])) direction := by
  cases entries with
  | nil => rfl
  | cons e entries =>
    have hitems : (Value.list ((e :: entries).map fun e => .tuple [e.1, e.2])).items? =
        some ((e :: entries).map fun e => .tuple [e.1, e.2]) := rfl
    rw [read_items hitems (by simp), List.mapM_map]
    rfl

/-- A bare name stands for the pair of it and the ascending direction. -/
theorem readItem_text {s : String} {pair : Value} (h : pair.items? = some [.text s, .text "ASC"]) :
    readItem (.text s) = readItem pair := by
  have hasc : Direction.read (.text "ASC") = .ascending := rfl
  rcases Value.items?_eq_some.mp h with rfl | rfl <;> simp only [readItem, readPair, hasc]

theorem read_bare {s : String} {pair : Value} {before after : List Value}
    (h : pair.items? = some [.text s, .text "ASC"])
    (hv : v.items? = some (before ++ .text s :: after))
    (hw : w.items? = some (before ++ pair :: after)) (direction : Value) :
    read v direction = read w direction := by
  rw [read_items hv (by simp), read_items hw (by simp), List.mapM_append, List.mapM_append,
    List.mapM_cons, List.mapM_cons, readItem_text h]

/-- The pair that stands for a column and its direction in a list. -/
def itemOf (p : String × Direction) : Value := .tuple [.text p.1, .text p.2.word]

/-- A list that was read is read again from its own items. -/
theorem read_again {key direction : Value} (h : read key direction = .ok (some o))
    (hv : v.items? = some (o.map itemOf)) (direction' : Value) :
    read v direction' = .ok (some o) := by
  have ho := read_eq_some h
  have hne : o ≠ [] := by
    rintro rfl
    exact ho.ne_nil rfl
  have hpairs : (o.map itemOf).mapM readItem = .ok o := by
    rw [Result.mapM_eq_ok, List.forall₂_map_left_iff, List.forall₂_same]
    intro p hp
    have hc := (ho.column p.1 (List.mem_map_of_mem hp)).readColumn_eq
    rw [itemOf, readItem, readPair, hc, Direction.read_word]
    rfl
  rw [read_items hv (by simpa using hne), hpairs, Result.ok_map, ofPairs,
    Keyed.ofList_of_nodup ho.nodup]

end Ordering

namespace Grouping

variable {v w : Value} {columns : List String} {g : Grouping}

theorem keys_unit (columns : List String) : Keyed.keys (columns.map fun c => (c, ())) = columns := by
  simp [Keyed.keys, Function.comp_def]

theorem ofColumns_eq (columns : List String) : ofColumns columns = columns.eraseDups := by
  rw [ofColumns, Keyed.keys_ofList, keys_unit]

theorem ofColumns_of_nodup (h : columns.Nodup) : ofColumns columns = columns := by
  have hkeys : (Keyed.keys (columns.map fun c => (c, ()))).Nodup := by rwa [keys_unit]
  rw [ofColumns, Keyed.ofList_of_nodup hkeys, keys_unit]

theorem read_items (hv : v.items? = some (columns.map .text)) (hne : columns ≠ []) :
    read v = ((columns.map Value.text).mapM readColumn).map fun cs => some (ofColumns cs) := by
  obtain ⟨c, columns, rfl⟩ := List.exists_cons_of_ne_nil hne
  rcases Value.items?_eq_some.mp hv with rfl | rfl <;> rfl

/-- Names that are not blank are grouped by in the order they first occur. -/
theorem read_columns (hv : v.items? = some (columns.map .text)) (hne : columns ≠ [])
    (h : ∀ c ∈ columns, Text.trim c ≠ "") :
    read v = .ok (some (columns.map Text.trim).eraseDups) := by
  have hcolumns : (columns.map Value.text).mapM readColumn = .ok (columns.map Text.trim) := by
    rw [Result.mapM_eq_ok, List.forall₂_map_left_iff, List.forall₂_map_right_iff, List.forall₂_same]
    exact fun c hc => readColumn_text (h c hc)
  rw [read_items hv hne, hcolumns, Result.ok_map, ofColumns_eq]

/-- Columns that were read are grouped by as they are. -/
theorem read_columnList (h : IsColumnList columns) (hv : v.items? = some (columns.map .text)) :
    read v = .ok (some columns) := by
  have hcolumns : (columns.map Value.text).mapM readColumn = .ok columns := by
    rw [Result.mapM_eq_ok, List.forall₂_map_left_iff, List.forall₂_same]
    exact fun c hc => (h.column c hc).readColumn_eq
  rw [read_items hv h.ne_nil, hcolumns, Result.ok_map, ofColumns_of_nodup h.nodup]

end Grouping

/-! ### The normal form -/

open RowQuery.Ordering in
/-- Pairs are read as their trimmed columns in the order they first occur, each with its last
direction; a mapping stands for the list of its entries, and a bare name for its pair with the
ascending direction; and what was read is read from its own items again. Groupings are read in the
same way, without directions. -/
theorem read_normal_form :
    (∀ v items pairs direction, v.items? = some items → items ≠ [] →
      List.Forall₂ IsPair items pairs →
      ∃ o, Ordering.read v direction = .ok (some o) ∧ IsNormalForm pairs o) ∧
    (∀ entries direction, Ordering.read (.map entries) direction =
      Ordering.read (.list (entries.map fun e => .tuple [e.1, e.2])) direction) ∧
    (∀ s pair before after direction v w, pair.items? = some [.text s, .text "ASC"] →
      v.items? = some (before ++ .text s :: after) → w.items? = some (before ++ pair :: after) →
      Ordering.read v direction = Ordering.read w direction) ∧
    (∀ key direction o, Ordering.read key direction = .ok (some o) →
      (∀ v direction', v.items? = some (o.map itemOf) →
        Ordering.read v direction' = .ok (some o)) ∧
      ∀ v, v.items? = some ((Keyed.keys o).map .text) →
        Grouping.read v = .ok (some (Keyed.keys o))) ∧
    (∀ v columns, v.items? = some (columns.map .text) → columns ≠ [] →
      (∀ c ∈ columns, Text.trim c ≠ "") →
      Grouping.read v = .ok (some (columns.map Text.trim).eraseDups)) ∧
    ∀ v g, Grouping.read v = .ok (some g) → ∀ w, w.items? = some (g.map .text) →
      Grouping.read w = .ok (some g) := by
  refine ⟨fun v items pairs direction hv hne h => read_pairs hv hne h direction, read_map,
    fun s pair before after direction v w h hv hw => read_bare h hv hw direction,
    fun key direction o h => ⟨fun v direction' hv => read_again h hv direction', fun v hv => ?_⟩,
    fun v columns hv hne h => Grouping.read_columns hv hne h, fun v g h w hw => ?_⟩
  · exact Grouping.read_columnList (read_eq_some h) hv
  · exact Grouping.read_columnList (Grouping.read_eq_some h) hw

/-- Pairs of which two name one column, with different directions and blanks. -/
def cityPairs : List Value :=
  [.tuple [.text " city", .text "desc "], .list [.text "u.age", .int 1],
    .tuple [.text "city\t", .text "up"]]

example : Ordering.read (.list cityPairs) .null =
    .ok (some [("city", .ascending), ("u.age", .ascending)]) := rfl

open RowQuery.Ordering in
theorem cityPairs_normal_form :
    (Value.list cityPairs).items? = some cityPairs ∧ cityPairs ≠ [] ∧
      List.Forall₂ IsPair cityPairs
        [("city", .descending), ("u.age", .ascending), ("city", .ascending)] ∧
      (∃ o, Ordering.read (.list cityPairs) .null = .ok (some o) ∧
        IsNormalForm [("city", .descending), ("u.age", .ascending), ("city", .ascending)] o ∧
        Ordering.read (.tuple (o.map itemOf)) .null = .ok (some o)) ∧
      Grouping.read (.list [.text "city ", .text "age", .text " city"]) =
        .ok (some ["city", "age"]) := by
  obtain ⟨hpairs, -, -, hagain, hgroup, -⟩ := read_normal_form
  have hne : cityPairs ≠ [] := List.cons_ne_nil _ _
  have hread : List.Forall₂ IsPair cityPairs
      [("city", .descending), ("u.age", .ascending), ("city", .ascending)] := by
    refine .cons ⟨_, _, rfl, by decide, rfl⟩ (.cons ⟨_, _, rfl, by decide, rfl⟩
      (.cons ⟨_, _, rfl, by decide, rfl⟩ .nil))
  obtain ⟨o, ho, hnormal⟩ := hpairs (.list cityPairs) cityPairs _ .null rfl hne hread
  refine ⟨rfl, hne, hread, ⟨o, ho, hnormal, (hagain _ _ o ho).1 _ _ rfl⟩, ?_⟩
  have hcities : (["city ", "age", " city"].map Text.trim).eraseDups = ["city", "age"] := by decide
  exact hcities ▸ hgroup _ ["city ", "age", " city"] rfl (List.cons_ne_nil _ _) (by decide)

end RowQuery

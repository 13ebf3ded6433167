import RowQuery.Condition.Spelling
import RowQuery.Proofs.Binding
import RowQuery.Proofs.Result
import RowQuery.Value.Equality

/-! Conditions read from values. A value is read leaf by leaf, and every leaf of the tree it spells
is one that can be made, as long as this holds of the ready-made conditions inside it. -/

namespace RowQuery

/-- The values directly inside a value. -/
def Value.parts : Value → List Value
  | .list items => items
  | .tuple items => items
  | .map entries => entries.map (·.1) ++ entries.map (·.2)
  | .set members => members
  | _ => []

theorem Value.items?_eq_some {v : Value} {items : List Value} :
    v.items? = some items ↔ v = .list items ∨ v = .tuple items := by
  cases v <;> simp [Value.items?]

theorem Value.sizeOf_lt_of_mem_parts {v u : Value} (hu : u ∈ v.parts) : sizeOf u < sizeOf v := by
  cases v with
  | list items | tuple items | set items =>
    have : sizeOf u < sizeOf items := List.sizeOf_lt_of_mem hu
    simp only [list.sizeOf_spec, tuple.sizeOf_spec, set.sizeOf_spec]
    omega
  | map entries =>
    rcases List.mem_append.mp hu with hu | hu
    all_goals
      obtain ⟨⟨name, node⟩, he, rfl⟩ := List.mem_map.mp hu
      have := List.sizeOf_lt_of_mem he
      simp only [map.sizeOf_spec, Prod.mk.sizeOf_spec] at this ⊢
      omega
  | _ => exact absurd hu List.not_mem_nil

/-- What holds of a value when it holds of its parts holds of every value. -/
@[elab_as_elim]
theorem Value.parts_induction {P : Value → Prop} (step : ∀ v, (∀ u ∈ v.parts, P u) → P v)
    (v : Value) : P v :=
  step v fun u hu =>
    have := sizeOf_lt_of_mem_parts hu
    parts_induction step u
termination_by sizeOf v

/-- A value with no condition anywhere inside. -/
inductive Value.IsPlain : Value → Prop
  | of_parts {v : Value} (hc : ∀ c, v ≠ .condition c) (hp : ∀ u ∈ v.parts, IsPlain u) : IsPlain v

theorem Value.IsPlain.parts {v u : Value} (h : v.IsPlain) (hu : u ∈ v.parts) : u.IsPlain := by
  cases h with
  | of_parts _ hp => exact hp u hu

/-- A value is equal to a text only if it is that text. -/
theorem Value.beq_text_iff {v : Value} {s : String} : (v == .text s) = true ↔ v = .text s := by
  cases v with
  | text t =>
    have hs : (Value.text t == .text s) = (t == s) := rfl
    rw [hs, beq_iff_eq, Value.text.injEq]
  | _ => exact iff_of_false (fun h => nomatch h) fun h => nomatch h

/-- What a mapping holds for a text stands in an entry of it. -/
theorem Value.mem_of_field? {entries : List (Value × Value)} {key : String} {v : Value}
    (h : field? entries key = some v) : (.text key, v) ∈ entries := by
  obtain ⟨k, hk, hmem⟩ := Keyed.mem_of_find? h
  rwa [beq_text_iff.mp hk] at hmem

theorem Value.IsPlain.field {entries : List (Value × Value)} {key : String} {v : Value}
    (h : (Value.map entries).IsPlain) (hv : Value.field? entries key = some v) : v.IsPlain := by
  have hmem : v ∈ entries.map (·.2) := List.mem_map.mpr ⟨_, Value.mem_of_field? hv, rfl⟩
  exact h.parts (List.mem_append_right _ hmem)

/-- A value in which every condition is a tree of leaves that can be made. -/
inductive Value.HoldsTrees : Value → Prop
  | of_parts {v : Value} (hc : ∀ c, v = .condition c → c.TreeOf Condition.IsLeaf)
    (hp : ∀ u ∈ v.parts, HoldsTrees u) : HoldsTrees v

theorem Value.IsPlain.holdsTrees {v : Value} (h : v.IsPlain) : v.HoldsTrees := by
  induction h with
  | of_parts hc _ ih => exact .of_parts (fun c hv => absurd hv (hc c)) ih

theorem Value.isPlain_null : Value.null.IsPlain :=
  .of_parts (fun _ hc => nomatch hc) fun _ hu => absurd hu List.not_mem_nil

/-- A field of a plain object is plain, and so is nothing in the place of a missing one. -/
theorem Value.IsPlain.field_getD {entries : List (Value × Value)}
    (h : (Value.map entries).IsPlain) (key : String) :
    ((Value.field? entries key).getD .null).IsPlain := by
  cases hk : Value.field? entries key with
  | none => exact isPlain_null
  | some v => exact h.field hk

namespace Condition

/-- A child under the name of its combinator, and what else it may be when there is no such name. -/
def readNamed (name node : Value) (otherwise : Except ArgumentError (Combinator × Condition)) :
    Except ArgumentError (Combinator × Condition) :=
  match Combinator.ofName? name with
  | some k => (read node).map fun c => (k, c)
  | none => otherwise

/-- An item of a group as a condition of its own. -/
def readWhole (item : Value) : Except ArgumentError (Combinator × Condition) :=
  (read item).map fun c => (.and, c)

/-- The child that one item of a group spells. -/
def readChild : Value → Except ArgumentError (Combinator × Condition)
  | .map [(name, node)] => readNamed name node (.error (.unknownCombinator name))
  | .map _ => .error .combinatorCount
  | .list [name, node] => readNamed name node (readWhole (.list [name, node]))
  | .tuple [name, node] => readNamed name node (readWhole (.tuple [name, node]))
  | item => readWhole item

theorem readChildren_cons (item : Value) (items : List Value) :
    readChildren (item :: items) = do
      let child ← readChild item
      let children ← readChildren items
      return child :: children := by
  rw [readChildren.eq_def]
  simp only
  congr 1
  split
  · rfl
  · rw [readChild]
    assumption
  · rfl
  · rfl
  · rw [readChild, readWhole] <;> assumption

theorem ofText_eq_ok {sql : String} {args : List Value} {c : Condition}
    (h : ofText sql args = .ok c) : c = .leaf sql args ∧ IsLeaf sql args := by
  have hc : c = .leaf sql args := by
    unfold ofText at h
    simp only at h
    split_ifs at h
    exact (Except.ok.inj h).symm
  rw [hc] at h
  exact ⟨hc, h⟩

theorem ofText_treeOf {sql : String} {args : List Value} {c : Condition}
    (h : ofText sql args = .ok c) : c.TreeOf IsLeaf := by
  obtain ⟨rfl, hl⟩ := ofText_eq_ok h
  exact .leaf hl

/-- A value spells nothing but trees of leaves. -/
def ReadsTree (v : Value) : Prop := ∀ c, read v = .ok c → c.TreeOf IsLeaf

theorem readNamed_treeOf {name node : Value} {child : Combinator × Condition}
    {otherwise : Except ArgumentError (Combinator × Condition)} (hnode : ReadsTree node)
    (ho : otherwise = .ok child → child.2.TreeOf IsLeaf)
    (h : readNamed name node otherwise = .ok child) : child.2.TreeOf IsLeaf := by
  unfold readNamed at h
  split at h
  · obtain ⟨c, hc, rfl⟩ := Result.map_eq_ok.mp h
    exact hnode c hc
  · exact ho h

theorem readWhole_treeOf {item : Value} {child : Combinator × Condition} (hitem : ReadsTree item)
    (h : readWhole item = .ok child) : child.2.TreeOf IsLeaf := by
  obtain ⟨c, hc, rfl⟩ := Result.map_eq_ok.mp h
  exact hitem c hc

/-- A child is the item itself, or stands directly inside it. -/
theorem readChild_treeOf {item : Value} {child : Combinator × Condition} (hitem : ReadsTree item)
    (hparts : ∀ u ∈ item.parts, ReadsTree u) (h : readChild item = .ok child) :
    child.2.TreeOf IsLeaf := by
  unfold readChild at h
  split at h
  · rename_i name node
    have ho : (.error (.unknownCombinator name) : Except ArgumentError _) = .ok child →
        child.2.TreeOf IsLeaf := fun he => nomatch he
    exact readNamed_treeOf (hparts node (by simp [Value.parts])) ho h
  · contradiction
  · rename_i name node
    exact readNamed_treeOf (hparts node (by simp [Value.parts])) (readWhole_treeOf hitem) h
  · rename_i name node
    exact readNamed_treeOf (hparts node (by simp [Value.parts])) (readWhole_treeOf hitem) h
  · exact readWhole_treeOf hitem h

theorem readChildren_treeOf {items : List Value}
    (h : ∀ item ∈ items, ReadsTree item ∧ ∀ u ∈ item.parts, ReadsTree u)
    {cs : List (Combinator × Condition)} (hr : readChildren items = .ok cs) :
    ∀ child ∈ cs, child.2.TreeOf IsLeaf := by
  induction items generalizing cs with
  | nil =>
    rw [readChildren] at hr
    obtain rfl := Except.ok.inj hr
    exact fun _ hc => absurd hc List.not_mem_nil
  | cons item items ih =>
    rw [readChildren_cons] at hr
    obtain ⟨first, hfirst, hr⟩ := Result.bind_eq_ok.mp hr
    obtain ⟨rest, hrest, hr⟩ := Result.bind_eq_ok.mp hr
    obtain rfl := Except.ok.inj hr
    have hi := h item List.mem_cons_self
    intro child hc
    rcases List.mem_cons.mp hc with rfl | hc
    · exact readChild_treeOf hi.1 hi.2 hfirst
    · exact ih (fun u hu => h u (List.mem_cons_of_mem item hu)) hrest child hc

theorem ofItems_treeOf {items : List Value}
    (h : ∀ item ∈ items, ReadsTree item ∧ ∀ u ∈ item.parts, ReadsTree u) {c : Condition}
    (hr : ofItems items (readChildren items) = .ok c) : c.TreeOf IsLeaf := by
  unfold ofItems at hr
  split at hr
  · contradiction
  · exact ofText_treeOf hr
  · obtain ⟨cs, hcs, rfl⟩ := Result.map_eq_ok.mp hr
    exact .group (readChildren_treeOf h hcs)

theorem read_treeOf {v : Value} (h : v.HoldsTrees) : ReadsTree v := by
  -- a child may stand two levels inside its group, so the parts are carried along
  suffices hs : ReadsTree v ∧ ∀ u ∈ v.parts, ReadsTree u from hs.1
  induction h with
  | @of_parts v hc _ ih =>
    refine ⟨fun c hr => ?_, fun u hu => (ih u hu).1⟩
    unfold read at hr
    split at hr
    · exact Except.ok.inj hr ▸ hc _ rfl
    · exact Except.ok.inj hr ▸ hc _ rfl
    · exact ofText_treeOf hr
    · exact ofItems_treeOf ih hr
    · exact ofItems_treeOf ih hr
    · contradiction

/-- Conditions are a text with its values, or what a value without further arguments is read as. -/
theorem ofArguments_eq_some {v : Value} {args : List Value} {c : Condition}
    (h : ofArguments v args = .ok (some c)) :
    (∃ s, v = .text s ∧ ofText s args = .ok c) ∨ (args = [] ∧ read v = .ok c) := by
  have hsome : ∀ r : Except ArgumentError Condition, r.map some = .ok (some c) → r = .ok c := by
    intro r hr
    obtain ⟨d, hd, he⟩ := Result.map_eq_ok.mp hr
    rw [hd, Option.some.inj he]
  unfold ofArguments at h
  split at h
  · split_ifs at h
    cases h
  · split_ifs at h
    · cases h
    · exact .inl ⟨_, rfl, hsome _ h⟩
  · split_ifs at h with ha
    have hnil : args = [] := by simpa using ha
    right
    refine ⟨hnil, ?_⟩
    split at h
    · exact hsome (.ok _) h
    · exact hsome (.ok _) h
    · cases h
    · cases h
    · exact hsome _ h
    · exact hsome _ h
    · contradiction

/-- What a value with its arguments spells is a tree of leaves. -/
theorem ofArguments_treeOf {v : Value} (h : v.HoldsTrees) {args : List Value} {c : Condition}
    (hr : ofArguments v args = .ok (some c)) : c.TreeOf IsLeaf := by
  rcases ofArguments_eq_some hr with ⟨s, -, hs⟩ | ⟨-, hread⟩
  · exact ofText_treeOf hs
  · exact read_treeOf h c hread

end Condition

end RowQuery

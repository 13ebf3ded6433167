import RowQuery.Proofs.Filling

/-! Values bind to their own placeholders. A tree of leaves that can be made, none of which leaves
a quote open, compiles to a text with one placeholder per value, and the values in the places of
the placeholders show the tree as it was built. -/

namespace RowQuery.Condition

open Sql Quoting

/-- A tree of leaves that all satisfy `P`; groups may be empty. -/
inductive TreeOf (P : String → List Value → Prop) : Condition → Prop
  | leaf {sql : String} {args : List Value} (h : P sql args) : TreeOf P (.leaf sql args)
  | group {cs : List (Combinator × Condition)} (h : ∀ child ∈ cs, TreeOf P child.2) :
    TreeOf P (.group cs)

/-- Texts and values that make a leaf. -/
def IsLeaf (sql : String) (args : List Value) : Prop := ofText sql args = .ok (.leaf sql args)

/-- Texts and values that make a leaf and leave no quote open. -/
def IsClosedLeaf (sql : String) (args : List Value) : Prop :=
  IsLeaf sql args ∧ IsClosed sql.toList

theorem isLeaf_iff {sql : String} {args : List Value} :
    IsLeaf sql args ↔
      (placeholders sql).length = args.length ∧ ∀ v ∈ args, v.items? ≠ some [] := by
  unfold IsLeaf ofText
  simp only
  split_ifs with hc ha
  · simp [hc]
  · obtain ⟨v, hv, hs⟩ := List.any_eq_true.mp ha
    split at hs
    · rename_i he
      simp only [false_iff, not_and]
      intro _ hn
      exact hn v hv he
    · contradiction
  · simp only [true_iff]
    refine ⟨Decidable.not_not.mp hc, fun v hv hs => ha ?_⟩
    refine List.any_eq_true.mpr ⟨v, hv, ?_⟩
    rw [hs]

theorem IsLeaf.count_eq {sql : String} {args : List Value} (h : IsLeaf sql args) :
    outside.count sql.toList = args.length := by
  rw [← length_placeholders, (isLeaf_iff.mp h).1]

theorem TreeOf.mono {P Q : String → List Value → Prop} (hPQ : ∀ sql args, P sql args → Q sql args)
    {c : Condition} (h : c.TreeOf P) : c.TreeOf Q := by
  induction h with
  | leaf h => exact .leaf (hPQ _ _ h)
  | group _ ih => exact .group ih

/-! ### What a tree shows -/

def chars (s : String) : List Symbol := s.toList.map .char

mutual

/-- The texts of a tree with the values in the places of their placeholders. -/
def filled : Condition → List Symbol
  | .leaf sql args => substitute .char 0 sql.toList ((placeholders sql).zip (args.map shown))
  | .group cs => chars "( " ++ filledChildren true cs ++ chars " )"
  | .stray _ => []
termination_by structural c => c

/-- Children with the texts between them. -/
def filledChildren (first : Bool) : List (Combinator × Condition) → List Symbol
  | [] => []
  | (combinator, c) :: cs =>
    chars (if first then "" else joiner combinator) ++ c.filled ++ filledChildren false cs
termination_by structural cs => cs

end

/-- A piece of SQL with one placeholder per value shows `t`. -/
structure Shows (b : BoundSql) (t : List Symbol) : Prop where
  binds : Binds b.sql.toList b.args.length
  fill_eq : outside.fill .char b.sql.toList (b.args.map fun v => [.value v]) = t

namespace Shows

theorem append {b d : BoundSql} {t u : List Symbol} (hb : Shows b t) (hd : Shows d u) :
    Shows ⟨b.sql ++ d.sql, b.args ++ d.args⟩ (t ++ u) where
  binds := by
    rw [String.toList_append, List.length_append]
    exact hb.binds.append hd.binds
  fill_eq := by
    have hl : Binds b.sql.toList (b.args.map fun v => [Symbol.value v]).length := by
      rw [List.length_map]
      exact hb.binds
    rw [String.toList_append, List.map_append, fill_append_of_binds _ hl, hb.fill_eq, hd.fill_eq]

/-- A text that binds nothing shows itself. -/
theorem of_text {s : String} (h : Binds s.toList 0) : Shows ⟨s, []⟩ (chars s) where
  binds := h
  fill_eq := fill_of_count_eq_zero _ h.count_eq _

end Shows

theorem joiner_binds (k : Combinator) : Binds (joiner k).toList 0 := by
  cases k <;> decide

theorem IsLeaf.renderLeaf_args {sql : String} {args : List Value} (h : IsLeaf sql args) :
    (renderLeaf sql args).args = args.flatMap bound := by
  rw [renderLeaf, (isLeaf_iff.mp h).1, List.take_length]

theorem renderLeaf_shows {sql : String} {args : List Value} (h : IsClosedLeaf sql args) :
    Shows (renderLeaf sql args) (leaf sql args).filled := by
  have hc := h.1.count_eq
  have ha := h.1.renderLeaf_args
  constructor
  · rw [toList_renderLeaf, ha]
    exact ⟨(run_fill_marks _ _ _).trans h.2, count_fill_marks _ _ _ hc⟩
  · rw [toList_renderLeaf, ha, fill_fill_marks _ _ _ hc, filled, placeholders_eq_offsets,
      substitute_zip_offsets]

theorem renderChildren_shows {cs : List (Combinator × Condition)}
    (h : ∀ child ∈ cs, ∃ b, child.2.render = .ok b ∧ Shows b child.2.filled) (first : Bool) :
    ∃ b, renderChildren first cs = .ok b ∧ Shows b (filledChildren first cs) := by
  induction cs generalizing first with
  | nil => exact ⟨⟨"", []⟩, rfl, Binds.nil, rfl⟩
  | cons child cs ih =>
    obtain ⟨k, c⟩ := child
    obtain ⟨b, hb, hs⟩ := h (k, c) List.mem_cons_self
    obtain ⟨d, hd, ht⟩ := ih (fun x hx => h x (List.mem_cons_of_mem _ hx)) false
    have hlead : Binds (if first then "" else joiner k).toList 0 := by
      split_ifs
      · exact Binds.nil
      · exact joiner_binds k
    refine ⟨_, ?_, ((Shows.of_text hlead).append hs).append ht⟩
    simp only [renderChildren, hb, hd]
    rfl

/-- The tree compiles, and what it compiles to shows the tree. -/
theorem TreeOf.render_shows {c : Condition} (h : c.TreeOf IsClosedLeaf) :
    ∃ b, c.render = .ok b ∧ Shows b c.filled := by
  induction h with
  | leaf h => exact ⟨_, rfl, renderLeaf_shows h⟩
  | group _ ih =>
    obtain ⟨b, hb, hs⟩ := renderChildren_shows ih true
    have hl : Binds "( ".toList 0 := by decide
    have hr : Binds " )".toList 0 := by decide
    refine ⟨⟨"( " ++ b.sql ++ " )", b.args⟩, ?_, ?_⟩
    · simp only [render, hb]
      rfl
    · simpa [filled] using ((Shows.of_text hl).append hs).append (Shows.of_text hr)

/-- Values bind to their own placeholders. -/
theorem render_filled_eq {c : Condition} (h : c.TreeOf IsClosedLeaf) :
    ∃ b, c.render = .ok b ∧ (placeholders b.sql).length = b.args.length ∧ b.filled = c.filled := by
  obtain ⟨b, hb, hs⟩ := h.render_shows
  refine ⟨b, hb, ?_, ?_⟩
  · rw [length_placeholders, hs.binds.count_eq]
  · rw [BoundSql.filled_eq_fill, hs.fill_eq]

/-- A tree with quoted question marks, a sequence and an empty group. -/
def quotedTree : Condition :=
  .group [(.xor, .leaf "a = ? AND t = '?''s'" [.int 1]),
    (.or, .group [(.and, .leaf "b IN ? OR `c?` = ?" [.tuple [.int 2, .text "x"], .null]),
      (.and, .group [])])]

theorem quotedTree_treeOf : quotedTree.TreeOf IsClosedLeaf := by
  have ha : IsClosedLeaf "a = ? AND t = '?''s'" [.int 1] :=
    ⟨isLeaf_iff.mpr ⟨by decide +kernel, by simp [Value.items?]⟩, by decide +kernel⟩
  have hb : IsClosedLeaf "b IN ? OR `c?` = ?" [.tuple [.int 2, .text "x"], .null] :=
    ⟨isLeaf_iff.mpr ⟨by decide +kernel, by simp [Value.items?]⟩, by decide +kernel⟩
  refine .group fun child hc => ?_
  simp only [List.mem_cons, List.not_mem_nil, or_false] at hc
  rcases hc with rfl | rfl
  · exact .leaf ha
  · refine .group fun child hc => ?_
    simp only [List.mem_cons, List.not_mem_nil, or_false] at hc
    rcases hc with rfl | rfl
    · exact .leaf hb
    · exact .group fun _ h => absurd h List.not_mem_nil

theorem quotedTree_filled_eq :
    quotedTree.TreeOf IsClosedLeaf ∧
      ∃ b, quotedTree.render = .ok b ∧ (placeholders b.sql).length = b.args.length ∧
        b.filled = quotedTree.filled :=
  ⟨quotedTree_treeOf, render_filled_eq quotedTree_treeOf⟩

end RowQuery.Condition

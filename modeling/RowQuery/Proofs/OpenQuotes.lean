import RowQuery.Proofs.Alignment

/-! Fragments that leave quotes open. The quotes of one condition run on into the next ones, so a
placeholder may end up in quotes that an earlier fragment opened, and a quoted question mark outside
of them. How many values a text lacks or has to spare is the difference between the two. -/

namespace RowQuery

namespace Sql

open Quoting

namespace Quoting

/-- The number of question marks that a reader in the first state takes for placeholders and one in
the second state does not. -/
def countOnly : (s t : Quoting) → List Char → Nat
  | _, _, [] => 0
  | s, t, c :: cs =>
    (if s.Meets c ∧ ¬ t.Meets c then 1 else 0) + (s.step c).countOnly (t.step c) cs

theorem count_add_countOnly (s t : Quoting) (cs : List Char) :
    s.count cs + t.countOnly s cs = t.count cs + s.countOnly t cs := by
  induction cs generalizing s t with
  | nil => rfl
  | cons c cs ih =>
    have h := ih (s.step c) (t.step c)
    rw [count_cons, count_cons, countOnly, countOnly]
    by_cases hs : s.Meets c <;> by_cases ht : t.Meets c <;> simp [hs, ht] <;> omega

end Quoting

namespace Fragment

/-- The number of placeholders that stand in quotes an earlier fragment left open. -/
def lost : (s : Quoting) → List Fragment → Nat
  | _, [] => 0
  | s, .plain t :: fs => lost (s.run t.toList) fs
  | s, .bound b :: fs => outside.countOnly s b.sql.toList + lost (s.run b.sql.toList) fs

/-- The number of placeholders that come without a value: those of plain texts, and those that
stand in quotes when their fragment is read by itself. -/
def stray : (s : Quoting) → List Fragment → Nat
  | _, [] => 0
  | s, .plain t :: fs => s.count t.toList + stray (s.run t.toList) fs
  | s, .bound b :: fs => s.countOnly outside b.sql.toList + stray (s.run b.sql.toList) fs

/-- A fragment that comes with values has a placeholder for each when it is read by itself. -/
def IsCounted : Fragment → Prop
  | .plain _ => True
  | .bound b => outside.count b.sql.toList = b.args.length

theorem IsAligned.isCounted {f : Fragment} (h : f.IsAligned) : f.IsCounted := by
  cases f with
  | plain s => exact trivial
  | bound b => exact h.count_eq

/-- What is lost of the placeholders, and what strays, is all that a text differs by from what its
fragments were made for. -/
theorem count_add_lost {fs : List Fragment} (h : ∀ f ∈ fs, f.IsCounted) (s : Quoting) :
    s.count (textOf fs) + lost s fs = (argsOf fs).length + stray s fs := by
  -- every fragment is read from the state in which the ones before it leave the reader
  induction fs generalizing s with
  | nil => rfl
  | cons f fs ih =>
    have ht := ih (fun g hg => h g (List.mem_cons_of_mem f hg)) (s.run f.text)
    rw [textOf_cons, argsOf_cons, count_append, List.length_append]
    cases f with
    | plain t =>
      rw [text] at ht
      rw [text, args, lost, stray, List.length_nil]
      omega
    | bound b =>
      have hb : outside.count b.sql.toList = b.args.length := h (.bound b) List.mem_cons_self
      have hc := s.count_add_countOnly outside b.sql.toList
      rw [text] at ht
      rw [text, args, lost, stray]
      omega

/-- A text has as many placeholders as values exactly when as many are lost as stray. -/
theorem count_eq_iff {fs : List Fragment} (h : ∀ f ∈ fs, f.IsCounted) :
    outside.count (textOf fs) = (argsOf fs).length ↔ lost outside fs = stray outside fs := by
  have := count_add_lost h outside
  omega

end Fragment

end Sql

/-! ### Conditions taken apart -/

namespace Condition

open Sql Quoting

mutual

/-- The leaves of a condition with the plain text between them. -/
def parts : Condition → List Fragment
  | .leaf sql args => [.bound (renderLeaf sql args)]
  | .group cs => .plain "( " :: (partsOfChildren true cs ++ [.plain " )"])
  | .stray _ => []
termination_by structural c => c

def partsOfChildren (first : Bool) : List (Combinator × Condition) → List Fragment
  | [] => []
  | (k, c) :: cs =>
    .plain (if first then "" else joiner k) :: (c.parts ++ partsOfChildren false cs)
termination_by structural cs => cs

end

mutual

theorem parts_eq_ok : ∀ {c : Condition} {b : BoundSql}, c.render = .ok b →
    Fragment.textOf c.parts = b.sql.toList ∧ Fragment.argsOf c.parts = b.args
  | .leaf sql args, b, h => by
    rw [render] at h
    obtain rfl := Except.ok.inj h
    exact ⟨List.append_nil _, List.append_nil _⟩
  | .group cs, b, h => by
    rw [render] at h
    obtain ⟨inner, hi, h⟩ := Result.bind_eq_ok.mp h
    obtain rfl := Except.ok.inj h
    obtain ⟨ht, ha⟩ := partsOfChildren_eq_ok hi
    rw [parts, Fragment.textOf_cons, Fragment.argsOf_cons, Fragment.textOf_append,
      Fragment.argsOf_append, ht, ha, String.toList_append, String.toList_append, List.append_assoc]
    exact ⟨rfl, List.append_nil _⟩
  | .stray v, b, h => by
    rw [render] at h
    contradiction
termination_by structural c => c

theorem partsOfChildren_eq_ok : ∀ {cs : List (Combinator × Condition)} {first : Bool}
    {b : BoundSql}, renderChildren first cs = .ok b →
      Fragment.textOf (partsOfChildren first cs) = b.sql.toList ∧
        Fragment.argsOf (partsOfChildren first cs) = b.args
  | [], first, b, h => by
    rw [renderChildren] at h
    obtain rfl := Except.ok.inj h
    exact ⟨rfl, rfl⟩
  | (k, c) :: cs, first, b, h => by
    rw [renderChildren] at h
    obtain ⟨head, hh, h⟩ := Result.bind_eq_ok.mp h
    obtain ⟨tail, ht, h⟩ := Result.bind_eq_ok.mp h
    obtain rfl := Except.ok.inj h
    obtain ⟨hct, hca⟩ := parts_eq_ok hh
    obtain ⟨hst, hsa⟩ := partsOfChildren_eq_ok ht
    rw [partsOfChildren, Fragment.textOf_cons, Fragment.argsOf_cons, Fragment.textOf_append,
      Fragment.argsOf_append, hct, hca, hst, hsa, String.toList_append, String.toList_append,
      List.append_assoc]
    exact ⟨rfl, rfl⟩
termination_by structural cs => cs

end

theorem parts_faithful : Faithful parts := fun _ _ h => parts_eq_ok h

/-- The parts of a tree are those of its leaves, and texts that bind nothing. -/
theorem TreeOf.forall_parts {P : String → List Value → Prop} {Q : Fragment → Prop}
    (hleaf : ∀ sql args, P sql args → Q (.bound (renderLeaf sql args)))
    (hplain : ∀ s : String, Binds s.toList 0 → Q (.plain s)) {c : Condition} (h : c.TreeOf P) :
    ∀ f ∈ c.parts, Q f := by
  have hchildren : ∀ (cs : List (Combinator × Condition)) (first : Bool),
      (∀ child ∈ cs, ∀ f ∈ child.2.parts, Q f) → ∀ f ∈ partsOfChildren first cs, Q f := by
    intro cs
    induction cs with
    | nil => exact fun _ _ _ hf => absurd hf List.not_mem_nil
    | cons child cs ih =>
      intro first hc f hf
      rcases List.mem_cons.mp hf with rfl | hf
      · refine hplain _ ?_
        split_ifs
        · exact Binds.nil
        · exact joiner_binds _
      · rcases List.mem_append.mp hf with hf | hf
        · exact hc child List.mem_cons_self f hf
        · exact ih false (fun d hd => hc d (List.mem_cons_of_mem child hd)) f hf
  induction h with
  | @leaf sql args hP =>
    intro f hf
    obtain rfl := List.mem_singleton.mp hf
    exact hleaf sql args hP
  | @group cs _ ih =>
    intro f hf
    rcases List.mem_cons.mp hf with rfl | hf
    · exact hplain _ (by decide)
    · rcases List.mem_append.mp hf with hf | hf
      · exact hchildren cs true ih f hf
      · obtain rfl := List.mem_singleton.mp hf
        exact hplain _ (by decide)

theorem renderLeaf_counted {sql : String} {args : List Value} (h : IsLeaf sql args) :
    (Fragment.bound (renderLeaf sql args)).IsCounted := by
  rw [Fragment.IsCounted, toList_renderLeaf, h.renderLeaf_args]
  exact count_fill_marks _ _ _ h.count_eq

theorem TreeOf.parts_counted {c : Condition} (h : c.TreeOf IsLeaf) :
    ∀ f ∈ c.parts, f.IsCounted :=
  h.forall_parts (fun _ _ hl => renderLeaf_counted hl) fun _ _ => trivial

theorem TreeOf.parts_aligned {c : Condition} (h : c.TreeOf IsClosedLeaf) :
    ∀ f ∈ c.parts, f.IsAligned :=
  h.forall_parts (fun _ _ hl => (renderLeaf_shows hl).binds) fun _ hs => hs

end Condition

/-! ### Statements taken apart -/

namespace Statement

open Sql Quoting

/-- How a statement's placeholders compare with its values: there are as many exactly when as many
are lost in open quotes as question marks stray. -/
theorem build_aligned_iff (st : Statement) {table : String} {o : Options} {b : BoundSql}
    (ho : (st.optionsOf o).EachCondition (Condition.TreeOf Condition.IsLeaf))
    (h : st.build table o = .ok b) :
    (placeholders b.sql).length = b.args.length ↔
      Fragment.lost outside (st.fragments Condition.parts table o) =
        Fragment.stray outside (st.fragments Condition.parts table o) := by
  obtain ⟨ht, ha⟩ := build_eq_ok Condition.parts_faithful h
  have hc : ∀ f ∈ st.fragments Condition.parts table o, f.IsCounted := by
    intro f hf
    rcases List.mem_cons.mp hf with rfl | hf
    · exact trivial
    · rcases List.mem_append.mp hf with hf | hf
      · exact (assignmentFragments_aligned f hf).isCounted
      · exact Options.forall_fragments (fun _ _ => trivial)
          (fun c hc => (ho c hc).parts_counted) f hf
  rw [length_placeholders, ← ht, ← ha]
  exact Fragment.count_eq_iff hc

/-- Nothing is lost and nothing strays when every quote is closed. -/
theorem build_aligned_of_closed (st : Statement) {table : String} {o : Options} {b : BoundSql}
    (ho : (st.optionsOf o).EachCondition (Condition.TreeOf Condition.IsClosedLeaf))
    (hst : st.IsSound) (h : st.build table o = .ok b) :
    (placeholders b.sql).length = b.args.length := by
  obtain ⟨ht, ha⟩ := build_eq_ok Condition.parts_faithful h
  have hal := fragments_aligned (fun c hc => (ho c hc).parts_aligned) hst table
  rw [length_placeholders, ← ht, ← ha, (Fragment.binds_textOf hal).count_eq]

end Statement

end RowQuery

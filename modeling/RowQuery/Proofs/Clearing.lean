import RowQuery.Proofs.Parametricity
import RowQuery.Proofs.Reading

/-! Clauses that are cleared. Every clause writes its own piece of a statement, so clearing some of
them takes their pieces out and leaves the others as they were, with the same values in the same
order. Only the offset has no piece of its own: it is written with the limit, goes where the limit
goes, and leaves the number of rows behind when it is cleared alone. -/

namespace RowQuery

/-- Pieces of a statement, one after another. -/
def Clauses.concat (cs : List Clauses) : Clauses :=
  ⟨cs.flatMap (·.fragments), cs.flatMap (·.args)⟩

namespace Options

variable {o : Options} {k : Clause} {part : Clause → Clauses} {short : Clauses}
  {cleared allowed : List Clause}

/-- Pieces are written one after another. -/
theorem clausesOf_eq (h : ∀ k, o.clause k = .ok (part k)) (ks : List Clause) :
    o.clausesOf ks = .ok (.concat (ks.map part)) := by
  induction ks with
  | nil => rfl
  | cons k ks ih =>
    rw [clausesOf, h k, ih]
    rfl

/-! ### Clearing -/

theorem clear_eq (o : Options) (ks : List Clause) : o.clear ks =
    { condition := if .condition ∈ ks then none else o.condition
      grouping := if .grouping ∈ ks then none else o.grouping
      having := if .having ∈ ks then none else o.having
      ordering := if .ordering ∈ ks then none else o.ordering
      limit := if .limit ∈ ks then none else o.limit
      offset := if .offset ∈ ks then none else o.offset } := by
  induction ks generalizing o with
  | nil => rfl
  | cons k ks ih =>
    have hcons : o.clear (k :: ks) = (o.erase k).clear ks := rfl
    rw [hcons, ih]
    cases k <;> simp [erase]

theorem has_clear : (o.clear cleared).has k = true ↔ o.has k = true ∧ k ∉ cleared := by
  rw [clear_eq]
  cases k <;> simp only [has] <;> split_ifs with h <;> simp [h]

/-- What is left of the pieces of clauses when some are cleared, where `short` is the piece of the
limit alone. -/
def remaining (part : Clause → Clauses) (short : Clauses) (cleared : List Clause) (k : Clause) :
    Clauses :=
  if k ∈ cleared then {} else if k = .limit ∧ .offset ∈ cleared then short else part k

theorem clause_clear (hpart : ∀ k, o.clause k = .ok (part k))
    (hshort : ({ o with offset := none } : Options).clause .limit = .ok short)
    (cleared : List Clause) (k : Clause) :
    (o.clear cleared).clause k = .ok (remaining part short cleared k) := by
  rw [remaining]
  split_ifs with hk hl
  · have hnot : (o.clear cleared).has k = false := by
      rw [Bool.eq_false_iff]
      exact fun h => (has_clear.mp h).2 hk
    exact clause_of_not_has hnot
  · obtain ⟨rfl, ho⟩ := hl
    rw [← hshort, clear_eq]
    simp only [clause, hk, ho, ↓reduceIte]
  · rw [← hpart k, clear_eq]
    cases k with
    | limit =>
      have ho : .offset ∉ cleared := fun ho => hl ⟨rfl, ho⟩
      simp only [clause, hk, ho, ↓reduceIte]
    | _ => simp only [clause, hk, ↓reduceIte]

/-! ### Statements without some clauses -/

/-- Conditions that were read, and a limit and an offset that stand for integers; the columns that
rows are grouped and ordered by may be any. -/
structure IsRead (o : Options) : Prop where
  conditions : o.EachCondition fun c =>
    ∃ v args, v.HoldsTrees ∧ Condition.ofArguments v args = .ok (some c)
  limit : ∀ v, o.limit = some v → ∃ n, v.integer = .ok n
  offset : ∀ v, o.offset = some v → ∃ n, v.integer = .ok n

theorem IsRead.isWritable (ho : o.IsRead) : o.IsWritable where
  conditions := by
    intro c hc
    obtain ⟨v, args, hv, hread⟩ := ho.conditions c hc
    obtain ⟨b, hb, -⟩ := (Condition.ofArguments_treeOf hv hread).render_values
    exact ⟨b, hb⟩
  limit := ho.limit
  offset := ho.offset

theorem IsWritable.withoutOffset (ho : o.IsWritable) : IsWritable { o with offset := none } where
  conditions := ho.conditions
  limit := ho.limit
  offset := fun _ h => nomatch h

/-- The clauses that are present and not allowed. -/
def refusedBy (o : Options) (allowed : List Clause) : List Clause :=
  Clause.all.filter fun k => o.has k ∧ k ∉ allowed

theorem refusedBy_eq (o : Options) (allowed : List Clause) :
    o.keys.filter (fun k => !allowed.contains k) = o.refusedBy allowed := by
  rw [keys, List.filter_filter, refusedBy]
  congr 1
  funext k
  simp [Bool.and_comm]

theorem mem_refusedBy : k ∈ o.refusedBy allowed ↔ o.has k = true ∧ k ∉ allowed := by
  have hall : k ∈ Clause.all := by cases k <;> decide
  simp [refusedBy, hall]

/-- A statement that takes every clause that is present has all of them. -/
theorem assemble_eq_clausesOf (h : ∀ k, o.has k = true → k ∈ allowed) (operation : String) :
    o.assemble allowed operation = o.clausesOf Clause.all := by
  have hnone : o.refusedBy allowed = [] := by
    rw [List.eq_nil_iff_forall_not_mem]
    exact fun k hk => (mem_refusedBy.mp hk).2 (h k (mem_refusedBy.mp hk).1)
  exact assemble_taken operation ((refusedBy_eq o allowed).trans hnone)

theorem assemble_eq_concat (hpart : ∀ k, o.clause k = .ok (part k))
    (h : ∀ k, o.has k = true → k ∈ allowed) (operation : String) :
    o.assemble allowed operation = .ok (.concat (Clause.all.map part)) :=
  (assemble_eq_clausesOf h operation).trans (clausesOf_eq hpart _)

theorem assemble_of_not_allowed (h : ∃ k, o.has k = true ∧ k ∉ allowed) (operation : String) :
    o.assemble allowed operation = .error (.clauses operation (o.refusedBy allowed)) := by
  obtain ⟨k, hk⟩ := h
  have hne : o.keys.filter (fun k => !allowed.contains k) ≠ [] := by
    rw [refusedBy_eq]
    exact List.ne_nil_of_mem (mem_refusedBy.mpr hk)
  rw [assemble_refused operation hne, refusedBy_eq]

/-- Options that hold every clause, with values in both conditions. -/
def groupedPage : Options where
  condition := some Condition.quotedTree
  grouping := some ["city"]
  having := some (.leaf "n > ?" [.int 2])
  ordering := some [("u.age", .descending)]
  limit := some (.int 10)
  offset := some (.int 20)

/-- An offset that is cleared leaves the limit, and conditions take their values with them. -/
example : ((groupedPage.clear [.condition, .grouping, .offset]).assemble Clause.reading
    "fetch").toOption.map (fun c => (c.fragments, c.args.length)) =
    some (["HAVING n > ?", "ORDER BY `u`.`age` DESC", "LIMIT 10"], 1) := by decide +kernel

theorem groupedPage_isRead : groupedPage.IsRead where
  conditions := by
    have htree : (Value.condition Condition.quotedTree).HoldsTrees := by
      refine .of_parts (fun c hc => ?_) fun u hu => absurd hu List.not_mem_nil
      obtain rfl := Value.condition.inj hc
      exact Condition.quotedTree_treeOf.mono fun _ _ h => h.1
    have htext : (Value.text "n > ?").HoldsTrees :=
      .of_parts (fun _ hc => nomatch hc) fun u hu => absurd hu List.not_mem_nil
    rintro c (hc | hc)
    · obtain rfl := Option.some.inj hc
      exact ⟨_, [], htree, rfl⟩
    · obtain rfl := Option.some.inj hc
      exact ⟨_, [.int 2], htext, rfl⟩
  limit := by
    rintro v ⟨⟩
    exact ⟨10, rfl⟩
  offset := by
    rintro v ⟨⟩
    exact ⟨20, rfl⟩

theorem groupedPage_hasShortPage : groupedPage.HasShortPage := by
  rintro v ⟨⟩
  refine ⟨Value.isShort_int (by decide +kernel), ?_⟩
  rintro w ⟨⟩
  exact Value.isShort_int (by decide +kernel)

end Options

end RowQuery

import RowQuery.Proofs.JsonValues
import RowQuery.Proofs.OpenQuotes
import RowQuery.Proofs.Preparation
import RowQuery.Proofs.Reading

/-! Statements as the compiling service answers them. Each condition of a request has a placeholder
for every value, read by itself, but the service joins conditions and columns without reading the
whole again: a quote that one of them leaves open may take placeholders away from the others. -/

namespace RowQuery

/-- Conditions that are spelled by plain values are trees of leaves that can be made. -/
theorem Search.Request.options_eachCondition {r : Search.Request} {o : Options}
    (hc : r.conditions.IsPlain) (hh : r.having.IsPlain) (h : r.options = .ok o) :
    o.EachCondition (Condition.TreeOf Condition.IsLeaf) := by
  obtain ⟨hcondition, -, hhaving, -⟩ := Search.Request.options_eq_ok.mp h
  rintro c (hsome | hsome)
  · rw [hsome] at hcondition
    exact Condition.ofArguments_treeOf hc.holdsTrees hcondition
  · rw [hsome] at hhaving
    unfold Options.readBeside at hhaving
    split at hhaving
    · cases hhaving
    · rw [Options.readHaving_none] at hhaving
      exact Condition.ofArguments_treeOf hh.holdsTrees hhaving

namespace Service

open Sql Quoting

/-- And so are the conditions of a plan. -/
theorem plan_eachCondition {r : Registry} {entries : List (Value × Value)} {p : Plan}
    (hp : (Value.map entries).IsPlain) (h : plan r (.map entries) = .ok p) :
    p.options.EachCondition (Condition.TreeOf Condition.IsLeaf) := by
  obtain ⟨-, -, -, hr, ho⟩ := plan_eq_ok.mp h
  rw [hr] at ho
  exact Search.Request.options_eachCondition (hp.field_getD "conditions") (hp.field_getD "having") ho

/-- The fragments of a plan's statement, with its conditions taken apart. -/
def Plan.fragments (p : Plan) (st : Statement) : List Fragment :=
  st.fragments Condition.parts p.entry.table p.options

/-- The statements of an accepted request have as many placeholders as values exactly when as many
are lost in open quotes as question marks stray. They do when no condition leaves a quote open and
the columns bind nothing. -/
theorem compile_aligned_iff {r : Registry} {entries : List (Value × Value)} {v : Value}
    {w w' : World} (hp : (Value.map entries).IsPlain)
    (h : (compile r (.map entries)).run.run w = (.ok (.body v), w')) :
    ∃ p select count, plan r (.map entries) = .ok p ∧ v = preview p select count ∧
      ((placeholders select.sql).length = select.args.length ↔
        Fragment.lost outside (p.fragments (.select p.request.columns)) =
          Fragment.stray outside (p.fragments (.select p.request.columns))) ∧
      ((placeholders count.sql).length = count.args.length ↔
        Fragment.lost outside (p.fragments .count) = Fragment.stray outside (p.fragments .count)) ∧
      (p.options.EachCondition (Condition.TreeOf Condition.IsClosedLeaf) →
        (placeholders count.sql).length = count.args.length ∧
          (RequestsUnbound p.request.columns →
            (placeholders select.sql).length = select.args.length)) := by
  obtain ⟨p, select, count, hplan, -, hs, hc, rfl, -⟩ := compile_eq_body.mp h
  have ho := plan_eachCondition hp hplan
  refine ⟨p, select, count, hplan, rfl, ?_, ?_, fun hclosed => ⟨?_, fun hu => ?_⟩⟩
  · exact Statement.build_aligned_iff (.select p.request.columns) ho hs
  · exact Statement.build_aligned_iff .count ho hc
  · exact Statement.build_aligned_of_closed .count hclosed trivial hc
  · obtain ⟨_, items, -, hi, -⟩ := select_eq_ok.mp hs
    exact Statement.build_aligned_of_closed (.select p.request.columns) hclosed
      ⟨⟨items, hi⟩, hu⟩ hs

/-- One table, without limits of its own. -/
def quoteRegistry : Registry where
  path := ""
  maxLimit := 100
  entries := [(.text "users", { table := "users" })]
  loaded := true

/-- Two conditions, the first of which leaves a quote open. -/
def openQuote : List (Value × Value) :=
  [(.text "table", .text "users"),
    (.text "conditions", .list [.list [.text "a = 'x"], .list [.text "b = ?", .int 1]])]

theorem openQuote_isPlain : (Value.map openQuote).IsPlain := Value.isPlain_of_hasJsonForm _ rfl

/-- The body of a response, none of a refusal. -/
def Response.body? : Response → Option Value
  | .body v => some v
  | .refused _ => none

/-- A run that is seen to end in a body with some property answers that body. -/
theorem answered_of_any {a : Act Response} {P : Value → Bool} {w : World}
    (h : (a.run.run w).1.toOption.any (fun r => r.body?.any P) = true) :
    ∃ v u, a.run.run w = (.ok (.body v), u) ∧ P v = true := by
  generalize a.run.run w = run at h ⊢
  obtain ⟨e | r, u⟩ := run
  · contradiction
  · cases r with
    | refused reason => contradiction
    | body v => exact ⟨v, u, rfl, h⟩

/-- The text at one place of a body has fewer placeholders than there are values at the next. -/
def lacks (i : Nat) (body : Value) : Bool :=
  let values := body.asEntries.map (·.2)
  (placeholders (values.getD i .null).asText).length <
    ((values.getD (i + 1) .null).items?.getD []).length

/-- The service answers, with fewer placeholders than values in both statements. -/
theorem openQuote_answered : ∃ v w, (compile quoteRegistry (.map openQuote)).run.run {} =
    (.ok (.body v), w) ∧ ∀ p select count, v = preview p select count →
      (placeholders select.sql).length < select.args.length ∧
        (placeholders count.sql).length < count.args.length := by
  have h : ((compile quoteRegistry (.map openQuote)).run.run {}).1.toOption.any
      (fun r => r.body?.any fun v => lacks 0 v && lacks 2 v) = true := by decide +kernel
  obtain ⟨v, w, hrun, hv⟩ := answered_of_any h
  refine ⟨v, w, hrun, ?_⟩
  rintro p select count rfl
  obtain ⟨hs, hc⟩ := Bool.and_eq_true_iff.mp hv
  exact ⟨of_decide_eq_true hs, of_decide_eq_true hc⟩

theorem openQuote_misaligned : ∃ v w, (compile quoteRegistry (.map openQuote)).run.run {} =
    (.ok (.body v), w) ∧ ∃ p select count, v = preview p select count ∧
      (placeholders select.sql).length ≠ select.args.length ∧
        (placeholders count.sql).length ≠ count.args.length := by
  obtain ⟨v, w, hrun, hall⟩ := openQuote_answered
  obtain ⟨p, select, count, -, -, -, -, hv, -⟩ := compile_eq_body.mp hrun
  obtain ⟨hs, hc⟩ := hall p select count hv
  exact ⟨v, w, hrun, p, select, count, hv, Nat.ne_of_lt hs, Nat.ne_of_lt hc⟩

theorem openQuote_aligned_iff : (Value.map openQuote).IsPlain ∧ ∃ v w,
    (compile quoteRegistry (.map openQuote)).run.run {} = (.ok (.body v), w) ∧
      ∃ p select count, plan quoteRegistry (.map openQuote) = .ok p ∧
        v = preview p select count ∧
        ((placeholders select.sql).length = select.args.length ↔
          Fragment.lost outside (p.fragments (.select p.request.columns)) =
            Fragment.stray outside (p.fragments (.select p.request.columns))) ∧
        ((placeholders count.sql).length = count.args.length ↔
          Fragment.lost outside (p.fragments .count) =
            Fragment.stray outside (p.fragments .count)) ∧
        (p.options.EachCondition (Condition.TreeOf Condition.IsClosedLeaf) →
          (placeholders count.sql).length = count.args.length ∧
            (RequestsUnbound p.request.columns →
              (placeholders select.sql).length = select.args.length)) := by
  obtain ⟨v, w, hrun, -⟩ := openQuote_answered
  exact ⟨openQuote_isPlain, v, w, hrun, compile_aligned_iff openQuote_isPlain hrun⟩

end Service

end RowQuery

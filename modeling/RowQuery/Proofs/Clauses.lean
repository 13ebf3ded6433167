import RowQuery.Proofs.Fragment
import RowQuery.Proofs.Unbound
import RowQuery.Query.Options

/-! Clauses as fragments. A query's clauses are its conditions, taken apart into fragments, and
plain text around them that binds nothing. -/

namespace RowQuery

open Sql Quoting

/-! ### Numbers that can be written -/

namespace Value

variable {v : Value} {n : Int}

theorem written_of_isWritable (h : v.isWritable = true) : v.written = .ok v.display := if_pos h

theorem written_of_not_isWritable (h : ¬ v.isWritable = true) :
    v.written = .error (.fault .value) := if_neg h

theorem integerText_eq_ok {s : String} : v.integerText = .ok s ↔
    ∃ n, v.integer = .ok n ∧ (int n).isWritable = true ∧ toString n = s := by
  rw [integerText, Result.bind_eq_ok]
  refine exists_congr fun n => and_congr_right fun _ => ?_
  by_cases h : (int n).isWritable = true
  · rw [written_of_isWritable h, Except.ok.injEq]
    exact (and_iff_right h).symm
  · rw [written_of_not_isWritable h]
    exact iff_of_false (fun he => nomatch he) fun hand => h hand.1

theorem integerText_of_long (hn : v.integer = .ok n) (h : ¬ (int n).isWritable = true) :
    v.integerText = .error (.fault .value) := by
  rw [integerText, hn, Result.ok_bind, written_of_not_isWritable h]

/-- A value stands for no integer of more digits than can be written. -/
def IsShort (v : Value) : Prop := ∀ n, v.integer = .ok n → (int n).isWritable = true

theorem isShort_int (h : (int n).isWritable = true) : (int n).IsShort := by
  rintro m ⟨⟩
  exact h

theorem IsShort.integerText (h : v.IsShort) (hn : v.integer = .ok n) :
    v.integerText = .ok (toString n) :=
  integerText_eq_ok.mpr ⟨n, hn, h n hn, rfl⟩

theorem integerText_of_not_isShort (h : ¬ v.IsShort) : v.integerText = .error (.fault .value) := by
  obtain ⟨n, hlong⟩ := not_forall.mp h
  obtain ⟨hn, hlong⟩ := Classical.not_imp.mp hlong
  exact integerText_of_long hn hlong

end Value

namespace Clauses

theorem toList_sql (c : Clauses) : c.sql.toList = c.fragments.flatMap fun s => ' ' :: s.toList := by
  have hj : ∀ (s : String) (ss : List String),
      (" " ++ Text.join " " (s :: ss)).toList = (s :: ss).flatMap fun s => ' ' :: s.toList := by
    intro s ss
    induction ss generalizing s with
    | nil => simp [Text.join]
    | cons t ss ih =>
      have ht := ih t
      rw [String.toList_append] at ht
      rw [Text.join, String.toList_append, String.toList_append, String.toList_append,
        List.append_assoc, ht, List.flatMap_cons]
      · simp
      · simp
  unfold sql
  cases h : c.fragments with
  | nil => simp
  | cons s ss => simpa using hj s ss

@[simp] theorem fragments_append (c d : Clauses) :
    (c ++ d).fragments = c.fragments ++ d.fragments := rfl

@[simp] theorem args_append (c d : Clauses) : (c ++ d).args = c.args ++ d.args := rfl

/-- Fragments make up the text and the values of clauses. -/
def MadeOf (c : Clauses) (fs : List Fragment) : Prop :=
  Fragment.textOf fs = c.sql.toList ∧ Fragment.argsOf fs = c.args

theorem MadeOf.append {c d : Clauses} {fs gs : List Fragment} (hc : c.MadeOf fs)
    (hd : d.MadeOf gs) : (c ++ d).MadeOf (fs ++ gs) := by
  constructor
  · rw [Fragment.textOf_append, hc.1, hd.1, toList_sql, toList_sql, toList_sql, fragments_append,
      List.flatMap_append]
  · rw [Fragment.argsOf_append, hc.2, hd.2, args_append]

/-- Clauses without values are plain text. -/
theorem madeOf_plain {c : Clauses} (h : c.args = []) :
    c.MadeOf (c.fragments.map fun s => .plain (" " ++ s)) := by
  constructor
  · rw [toList_sql, Fragment.textOf, List.flatMap_map]
    congr 1
    funext s
    simp [Fragment.text]
  · rw [h, Fragment.argsOf, List.flatMap_map]
    exact List.flatMap_eq_nil_iff.mpr fun _ _ => rfl

end Clauses

/-- `tree` takes conditions apart into fragments of what they compile to. -/
def Faithful (tree : Condition → List Fragment) : Prop :=
  ∀ c b, c.render = .ok b →
    Fragment.textOf (tree c) = b.sql.toList ∧ Fragment.argsOf (tree c) = b.args

namespace Options

variable {tree : Condition → List Fragment} {o : Options} {k : Clause} {clauses : Clauses}

/-! ### The piece of a clause -/

/-- The piece that a clause writes. -/
inductive Writes (o : Options) : Clause → Clauses → Prop
  | absent {k : Clause} (h : o.has k = false) : Writes o k {}
  | condition {c : Condition} {b : BoundSql} (h : o.condition = some c) (hb : c.render = .ok b) :
    Writes o .condition ⟨["WHERE " ++ b.sql], b.args⟩
  | grouping {g : Grouping} (h : o.grouping = some g) : Writes o .grouping ⟨[g.sql "GROUP BY"], []⟩
  | having {c : Condition} {b : BoundSql} (h : o.having = some c) (hb : c.render = .ok b) :
    Writes o .having ⟨["HAVING " ++ b.sql], b.args⟩
  | ordering {g : Ordering} (h : o.ordering = some g) : Writes o .ordering ⟨[g.sql "ORDER BY"], []⟩
  | limit {v : Value} {n : Int} (h : o.limit = some v) (hn : v.integer = .ok n)
    (ho : o.offset = none) : Writes o .limit ⟨["LIMIT " ++ toString n], []⟩
  | paging {v w : Value} {n m : Int} (h : o.limit = some v) (hn : v.integer = .ok n)
    (ho : o.offset = some w) (hm : w.integer = .ok m) :
    Writes o .limit ⟨["LIMIT " ++ toString m ++ ", " ++ toString n], []⟩
  /-- The offset is written with the limit. -/
  | offset : Writes o .offset {}

theorem conditionClause_eq_ok {keyword : String} {c : Condition}
    (h : ((c.clause keyword).mapError ArgumentError.toError).map
      (fun b => (⟨[b.sql], b.args⟩ : Clauses)) = .ok clauses) :
    ∃ b, c.render = .ok b ∧ clauses = ⟨[keyword ++ " " ++ b.sql], b.args⟩ := by
  obtain ⟨b, hb, rfl⟩ := Result.map_eq_ok.mp h
  obtain ⟨inner, hi, hb⟩ := Result.bind_eq_ok.mp (Result.mapError_eq_ok.mp hb)
  obtain rfl := Except.ok.inj hb
  exact ⟨inner, hi, rfl⟩

theorem clause_of_not_has (h : o.has k = false) : o.clause k = .ok {} := by
  cases k with
  | offset => rfl
  | _ => rw [clause, Option.isNone_iff_eq_none.mp (Option.isSome_eq_false_iff.mp h)]

theorem writes_of_clause (h : o.clause k = .ok clauses) : o.Writes k clauses := by
  cases hk : o.has k with
  | false =>
    rw [clause_of_not_has hk] at h
    exact Except.ok.inj h ▸ .absent hk
  | true =>
    cases k with
    | condition =>
      obtain ⟨d, hd⟩ := Option.isSome_iff_exists.mp hk
      rw [clause, hd] at h
      obtain ⟨b, hb, rfl⟩ := conditionClause_eq_ok h
      exact .condition hd hb
    | grouping =>
      obtain ⟨g, hg⟩ := Option.isSome_iff_exists.mp hk
      rw [clause, hg] at h
      exact Except.ok.inj h ▸ .grouping hg
    | having =>
      obtain ⟨d, hd⟩ := Option.isSome_iff_exists.mp hk
      rw [clause, hd] at h
      obtain ⟨b, hb, rfl⟩ := conditionClause_eq_ok h
      exact .having hd hb
    | ordering =>
      obtain ⟨g, hg⟩ := Option.isSome_iff_exists.mp hk
      rw [clause, hg] at h
      exact Except.ok.inj h ▸ .ordering hg
    | limit =>
      obtain ⟨v, hv⟩ := Option.isSome_iff_exists.mp hk
      rw [clause, hv] at h
      cases ho : o.offset with
      | none =>
        rw [ho] at h
        obtain ⟨s, hs, h⟩ := Result.bind_eq_ok.mp h
        obtain ⟨n, hn, -, rfl⟩ := Value.integerText_eq_ok.mp hs
        exact Except.ok.inj h ▸ .limit hv hn ho
      | some w =>
        rw [ho] at h
        obtain ⟨t, ht, h⟩ := Result.bind_eq_ok.mp h
        obtain ⟨m, hm, -, rfl⟩ := Value.integerText_eq_ok.mp ht
        obtain ⟨s, hs, h⟩ := Result.bind_eq_ok.mp h
        obtain ⟨n, hn, -, rfl⟩ := Value.integerText_eq_ok.mp hs
        exact Except.ok.inj h ▸ .paging hv hn ho hm
    | offset => exact Except.ok.inj h ▸ .offset

/-! ### Clauses in fragments -/

/-- The condition of a clause, with the keyword before it. -/
def conditionOf (o : Options) : Clause → Option (String × Condition)
  | .condition => o.condition.map ("WHERE", ·)
  | .having => o.having.map ("HAVING", ·)
  | _ => none

/-- The fragments of one clause, with its condition taken apart by `tree`. -/
def clauseFragments (tree : Condition → List Fragment) (o : Options) (k : Clause) :
    List Fragment :=
  match o.conditionOf k with
  | some (keyword, c) => .plain (" " ++ keyword ++ " ") :: tree c
  | none => match o.clause k with
    | .ok clauses => clauses.fragments.map fun s => .plain (" " ++ s)
    | .error _ => []

/-- The fragments of all clauses, in the order of a statement. -/
def fragments (tree : Condition → List Fragment) (o : Options) : List Fragment :=
  Clause.all.flatMap (o.clauseFragments tree)

theorem conditionOf_eq_some {keyword : String} {c : Condition}
    (h : o.conditionOf k = some (keyword, c)) :
    (k = .condition ∧ keyword = "WHERE" ∧ o.condition = some c) ∨
      (k = .having ∧ keyword = "HAVING" ∧ o.having = some c) := by
  cases k with
  | condition =>
    obtain ⟨d, hd, he⟩ := Option.map_eq_some_iff.mp h
    obtain ⟨rfl, rfl⟩ := Prod.mk.inj he
    exact .inl ⟨rfl, rfl, hd⟩
  | having =>
    obtain ⟨d, hd, he⟩ := Option.map_eq_some_iff.mp h
    obtain ⟨rfl, rfl⟩ := Prod.mk.inj he
    exact .inr ⟨rfl, rfl, hd⟩
  | _ => contradiction

theorem clause_of_conditionOf {keyword : String} {c : Condition}
    (h : o.conditionOf k = some (keyword, c)) :
    o.clause k =
      ((c.clause keyword).mapError ArgumentError.toError).map fun b => ⟨[b.sql], b.args⟩ := by
  rcases conditionOf_eq_some h with ⟨rfl, rfl, hc⟩ | ⟨rfl, rfl, hc⟩ <;> rw [clause, hc]

/-- Clauses that are no conditions have no values, and their texts bind nothing. -/
theorem clause_plain (hn : o.conditionOf k = none) (h : o.clause k = .ok clauses) :
    clauses.args = [] ∧ ∀ s ∈ clauses.fragments, Binds s.toList 0 := by
  have hl : Binds "LIMIT ".toList 0 := by decide
  have hc : Binds ", ".toList 0 := by decide
  cases writes_of_clause h with
  | absent | offset => simp
  | condition hsome | having hsome => exact nomatch hsome.symm.trans (Option.map_eq_none_iff.mp hn)
  | grouping => simpa using Grouping.sql_binds (by decide) _
  | ordering => simpa using Ordering.sql_binds (by decide) _
  | limit => simpa using hl.append (toString_binds _)
  | paging => simpa using ((hl.append (toString_binds _)).append hc).append (toString_binds _)

/-- Every condition among the options satisfies `P`. -/
def EachCondition (P : Condition → Prop) (o : Options) : Prop :=
  ∀ c, o.condition = some c ∨ o.having = some c → P c

theorem EachCondition.of_conditionOf {P : Condition → Prop} (ho : o.EachCondition P)
    {keyword : String} {c : Condition} (h : o.conditionOf k = some (keyword, c)) : P c := by
  rcases conditionOf_eq_some h with ⟨-, -, hc⟩ | ⟨-, -, hc⟩
  · exact ho c (.inl hc)
  · exact ho c (.inr hc)

theorem keyword_binds {keyword : String} {c : Condition}
    (h : o.conditionOf k = some (keyword, c)) : Binds (" " ++ keyword ++ " ").toList 0 := by
  rcases conditionOf_eq_some h with ⟨-, rfl, -⟩ | ⟨-, rfl, -⟩ <;> decide

/-- Whatever holds of texts that bind nothing and of the fragments of conditions holds of all. -/
theorem forall_fragments {Q : Fragment → Prop}
    (hplain : ∀ s : String, Binds s.toList 0 → Q (.plain s))
    (htree : o.EachCondition fun c => ∀ f ∈ tree c, Q f) : ∀ f ∈ o.fragments tree, Q f := by
  intro f hf
  obtain ⟨k, -, hf⟩ := List.mem_flatMap.mp hf
  unfold clauseFragments at hf
  split at hf
  · rename_i keyword c hc
    rcases List.mem_cons.mp hf with rfl | hf
    · exact hplain _ (keyword_binds hc)
    · exact htree.of_conditionOf hc f hf
  · rename_i hn
    split at hf
    · rename_i clauses h
      obtain ⟨s, hs, rfl⟩ := List.mem_map.mp hf
      have hb : Binds " ".toList 0 := by decide
      have := hb.append ((clause_plain hn h).2 s hs)
      rw [← String.toList_append] at this
      exact hplain _ this
    · exact absurd hf List.not_mem_nil

/-- A condition is a keyword before the fragments it is taken apart into. -/
theorem condition_madeOf (ht : Faithful tree) {keyword : String} {c : Condition}
    (h : ((c.clause keyword).mapError ArgumentError.toError).map
      (fun b => (⟨[b.sql], b.args⟩ : Clauses)) = .ok clauses) :
    clauses.MadeOf (.plain (" " ++ keyword ++ " ") :: tree c) := by
  obtain ⟨b, hb, rfl⟩ := Result.map_eq_ok.mp h
  obtain ⟨inner, hi, hb⟩ := Result.bind_eq_ok.mp (Result.mapError_eq_ok.mp hb)
  obtain rfl := Except.ok.inj hb
  obtain ⟨hs, ha⟩ := ht c inner hi
  constructor
  · rw [Fragment.textOf_cons, hs, Clauses.toList_sql]
    simp [Fragment.text]
  · rw [Fragment.argsOf_cons, ha]
    rfl

theorem clause_madeOf (ht : Faithful tree) (h : o.clause k = .ok clauses) :
    clauses.MadeOf (o.clauseFragments tree k) := by
  unfold clauseFragments
  split
  · rename_i keyword c hc
    rw [clause_of_conditionOf hc] at h
    exact condition_madeOf ht h
  · rename_i hn
    rw [h]
    exact Clauses.madeOf_plain (clause_plain hn h).1

theorem clausesOf_madeOf (ht : Faithful tree) :
    ∀ {ks : List Clause} {clauses : Clauses}, o.clausesOf ks = .ok clauses →
      clauses.MadeOf (ks.flatMap (o.clauseFragments tree))
  | [], clauses, h => by
    obtain rfl := Except.ok.inj h
    exact ⟨rfl, rfl⟩
  | k :: ks, clauses, h => by
    obtain ⟨first, hf, h⟩ := Result.bind_eq_ok.mp h
    obtain ⟨rest, hr, h⟩ := Result.bind_eq_ok.mp h
    obtain rfl := Except.ok.inj h
    exact (clause_madeOf ht hf).append (clausesOf_madeOf ht hr)

/-- The clauses of a statement are those of its options, unless some clause is not allowed. -/
theorem assemble_madeOf (ht : Faithful tree) {allowed : List Clause} {operation : String}
    (h : o.assemble allowed operation = .ok clauses) : clauses.MadeOf (o.fragments tree) := by
  unfold assemble at h
  split at h
  · exact clausesOf_madeOf ht h
  · contradiction

/-! ### Clauses that can be written -/

/-- Every condition compiles, and the limit and the offset stand for integers. -/
structure IsWritable (o : Options) : Prop where
  conditions : o.EachCondition fun c => ∃ b, c.render = .ok b
  limit : ∀ v, o.limit = some v → ∃ n, v.integer = .ok n
  offset : ∀ v, o.offset = some v → ∃ n, v.integer = .ok n

/-- The number of rows taken, and that of the rows skipped before them, are short enough to be
written. -/
def HasShortPage (o : Options) : Prop :=
  ∀ v, o.limit = some v → v.IsShort ∧ ∀ w, o.offset = some w → w.IsShort

theorem hasShortPage_of_limit_none (h : o.limit = none) : o.HasShortPage := by
  intro v hv
  rw [h] at hv
  cases hv

theorem HasShortPage.withoutOffset (hp : o.HasShortPage) :
    HasShortPage { o with offset := none } :=
  fun v hv => ⟨(hp v hv).1, fun _ h => nomatch h⟩

/-- Only the numbers of a page may be too long to be written. -/
theorem IsWritable.clause_ok_of_ne (ho : o.IsWritable) (hk : k ≠ .limit) :
    ∃ clauses, o.clause k = .ok clauses := by
  cases hc : o.conditionOf k with
  | some p =>
    obtain ⟨keyword, c⟩ := p
    obtain ⟨b, hb⟩ := ho.conditions.of_conditionOf hc
    rw [clause_of_conditionOf hc, Condition.clause, hb]
    exact ⟨_, rfl⟩
  | none =>
    cases k with
    | condition | having => rw [clause, Option.map_eq_none_iff.mp hc]; exact ⟨_, rfl⟩
    | grouping | ordering => rw [clause]; split <;> exact ⟨_, rfl⟩
    | limit => exact absurd rfl hk
    | offset => exact ⟨_, rfl⟩

theorem IsWritable.clause_ok (ho : o.IsWritable) (hp : o.HasShortPage) (k : Clause) :
    ∃ clauses, o.clause k = .ok clauses := by
  by_cases hk : k = .limit
  · subst hk
    rw [clause]
    split
    · exact ⟨_, rfl⟩
    · rename_i v hv _
      obtain ⟨n, hn⟩ := ho.limit v hv
      rw [(hp v hv).1.integerText hn]
      exact ⟨_, rfl⟩
    · rename_i v w hv hw
      obtain ⟨n, hn⟩ := ho.limit v hv
      obtain ⟨m, hm⟩ := ho.offset w hw
      rw [(hp v hv).1.integerText hn, ((hp v hv).2 w hw).integerText hm]
      exact ⟨_, rfl⟩
  · exact ho.clause_ok_of_ne hk

/-- A page whose numbers are too long is not written. -/
theorem IsWritable.clause_limit_eq_error (ho : o.IsWritable) (hp : ¬ o.HasShortPage) :
    o.clause .limit = .error (.fault .value) := by
  rw [clause]
  split
  · rename_i hv
    exact absurd (hasShortPage_of_limit_none hv) hp
  · rename_i v hv hw
    have hlong : ¬ v.IsShort := by
      intro h
      refine hp fun u hu => ?_
      obtain rfl := Option.some.inj (hv.symm.trans hu)
      exact ⟨h, fun w h => nomatch hw.symm.trans h⟩
    rw [Value.integerText_of_not_isShort hlong]
    rfl
  · rename_i v w hv hw
    have hlong : ¬ (v.IsShort ∧ w.IsShort) := by
      rintro ⟨h, h'⟩
      refine hp fun u hu => ?_
      obtain rfl := Option.some.inj (hv.symm.trans hu)
      refine ⟨h, fun x hx => ?_⟩
      obtain rfl := Option.some.inj (hw.symm.trans hx)
      exact h'
    obtain ⟨m, hm⟩ := ho.offset w hw
    by_cases hshort : w.IsShort
    · rw [hshort.integerText hm, Value.integerText_of_not_isShort fun h => hlong ⟨h, hshort⟩]
      rfl
    · rw [Value.integerText_of_not_isShort hshort]
      rfl

theorem IsWritable.clausesOf_ok (ho : o.IsWritable) :
    ∀ {ks : List Clause}, (.limit ∈ ks → o.HasShortPage) → ∃ clauses, o.clausesOf ks = .ok clauses
  | [], _ => ⟨_, rfl⟩
  | k :: ks, hp => by
    have hfirst : ∃ first, o.clause k = .ok first := by
      by_cases hk : k = .limit
      · exact ho.clause_ok (hp (hk ▸ List.mem_cons_self)) k
      · exact ho.clause_ok_of_ne hk
    obtain ⟨first, hf⟩ := hfirst
    obtain ⟨rest, hr⟩ := ho.clausesOf_ok fun h => hp (List.mem_cons_of_mem k h)
    exact ⟨first ++ rest, by rw [clausesOf, hf, hr]; rfl⟩

theorem IsWritable.clausesOf_eq_error (ho : o.IsWritable) (hp : ¬ o.HasShortPage) :
    ∀ {ks : List Clause}, .limit ∈ ks → o.clausesOf ks = .error (.fault .value)
  | [], h => absurd h List.not_mem_nil
  | k :: ks, h => by
    rw [clausesOf]
    by_cases hk : k = .limit
    · rw [hk, ho.clause_limit_eq_error hp]
      rfl
    · have hks : .limit ∈ ks := (List.mem_cons.mp h).resolve_left fun h => hk h.symm
      obtain ⟨first, hf⟩ := ho.clause_ok_of_ne hk
      rw [hf, ho.clausesOf_eq_error hp hks]
      rfl

/-- Conditions are trees of closed leaves, and the limit and the offset stand for integers. -/
structure IsSound (o : Options) : Prop where
  conditions : o.EachCondition (Condition.TreeOf Condition.IsClosedLeaf)
  limit : ∀ v, o.limit = some v → ∃ n, v.integer = .ok n
  offset : ∀ v, o.offset = some v → ∃ n, v.integer = .ok n

theorem IsSound.isWritable (ho : o.IsSound) : o.IsWritable where
  conditions := by
    intro c hc
    obtain ⟨b, hb, -⟩ := (ho.conditions c hc).render_shows
    exact ⟨b, hb⟩
  limit := ho.limit
  offset := ho.offset

end Options

end RowQuery

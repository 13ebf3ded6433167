import RowQuery.Proofs.Alignment

/-! Values never shape the text of a statement. Two conditions of one shape, whose arguments differ
only in the values and not in being sequences or in their lengths, compile to one text, and so do
statements over them. Whatever relates the values of the two relates the bound values in the same
places. -/

namespace RowQuery

open Sql

variable {R : Value → Value → Prop}

/-- Both are bound as they are and related, or both are sequences of related items. -/
inductive Value.Alike (R : Value → Value → Prop) : Value → Value → Prop
  | single {v u : Value} (hv : v.items? = none) (hu : u.items? = none) (h : R v u) : Alike R v u
  | sequence {v u : Value} {vs us : List Value} (hv : v.items? = some vs) (hu : u.items? = some us)
    (h : List.Forall₂ R vs us) : Alike R v u

/-- One text, and related values in the same places. -/
structure BoundSql.Alike (R : Value → Value → Prop) (b d : BoundSql) : Prop where
  sql_eq : b.sql = d.sql
  args : List.Forall₂ R b.args d.args

namespace Condition

/-- One shape with one text at every leaf, and alike arguments. -/
inductive Alike (R : Value → Value → Prop) : Condition → Condition → Prop
  | leaf {sql : String} {vs us : List Value} (h : List.Forall₂ (Value.Alike R) vs us) :
    Alike R (.leaf sql vs) (.leaf sql us)
  | group {cs ds : List (Combinator × Condition)} (hk : cs.map (·.1) = ds.map (·.1))
    (h : ∀ x y, (x, y) ∈ cs.zip ds → Alike R x.2 y.2) : Alike R (.group cs) (.group ds)
  | stray (v : Value) : Alike R (.stray v) (.stray v)

theorem bound_alike {v u : Value} (h : v.Alike R u) : List.Forall₂ R (bound v) (bound u) := by
  unfold bound
  cases h with
  | single hv hu h =>
    rw [hv, hu]
    exact .cons h .nil
  | sequence hv hu h =>
    rw [hv, hu]
    exact h

/-- Placeholders are spread by the lengths of sequences alone. -/
theorem spread_alike {text : List Char} {xs ys : List (Nat × Value)}
    (h : List.Forall₂ (fun x y => x.1 = y.1 ∧ x.2.Alike R y.2) xs ys) (last : Nat) :
    spread text last xs = spread text last ys := by
  induction h generalizing last with
  | nil => rfl
  | @cons x y xs ys hxy _ ih =>
    obtain ⟨i, v⟩ := x
    obtain ⟨j, u⟩ := y
    obtain ⟨hij, hvu⟩ := hxy
    simp only at hij hvu
    subst hij
    rw [spread, spread]
    cases hvu with
    | single hv hu _ => simp only [hv, hu, ih]
    | sequence hv hu hl => simp only [hv, hu, ih, hl.length_eq]

theorem zip_alike {vs us : List Value} (h : List.Forall₂ (Value.Alike R) vs us) (ps : List Nat) :
    List.Forall₂ (fun x y => x.1 = y.1 ∧ x.2.Alike R y.2) (ps.zip vs) (ps.zip us) := by
  induction h generalizing ps with
  | nil =>
    rw [List.zip_nil_right]
    exact .nil
  | cons hvu _ ih =>
    cases ps with
    | nil => exact .nil
    | cons p ps => exact .cons ⟨rfl, hvu⟩ (ih ps)

theorem renderLeaf_alike {sql : String} {vs us : List Value}
    (h : List.Forall₂ (Value.Alike R) vs us) :
    (renderLeaf sql vs).Alike R (renderLeaf sql us) where
  sql_eq := by
    rw [renderLeaf, renderLeaf, spread_alike (zip_alike h _)]
  args := List.rel_flatMap (List.forall₂_take _ h) fun _ _ hvu => bound_alike hvu

theorem renderChildren_alike {cs ds : List (Combinator × Condition)}
    (hk : cs.map (·.1) = ds.map (·.1))
    (h : ∀ x y, (x, y) ∈ cs.zip ds → Result.Rel (BoundSql.Alike R) x.2.render y.2.render)
    (first : Bool) :
    Result.Rel (BoundSql.Alike R) (renderChildren first cs) (renderChildren first ds) := by
  induction cs generalizing ds first with
  | nil =>
    obtain rfl := List.map_eq_nil_iff.mp hk.symm
    exact .ok ⟨rfl, .nil⟩
  | cons x cs ih =>
    cases ds with
    | nil => contradiction
    | cons y ds =>
      obtain ⟨k, c⟩ := x
      obtain ⟨l, d⟩ := y
      rw [List.map_cons, List.map_cons] at hk
      obtain ⟨rfl, hks⟩ := List.cons.inj hk
      have hhead := h (k, c) (k, d) List.mem_cons_self
      have htail := ih hks (fun x y hxy => h x y (List.mem_cons_of_mem _ hxy)) false
      rw [renderChildren, renderChildren]
      refine hhead.bind fun b b' hb => htail.bind fun t t' ht => .ok ⟨?_, ?_⟩
      · simp only [hb.sql_eq, ht.sql_eq]
      · exact List.rel_append hb.args ht.args

/-- Conditions of one shape fail alike, or compile to one text with their values in its places. -/
theorem Alike.render {c d : Condition} (h : c.Alike R d) :
    Result.Rel (BoundSql.Alike R) c.render d.render := by
  induction h with
  | leaf h => exact .ok (renderLeaf_alike h)
  | group hk _ ih =>
    rw [Condition.render, Condition.render]
    refine (renderChildren_alike hk ih true).bind fun b b' hb => .ok ⟨?_, hb.args⟩
    simp only [hb.sql_eq]
  | stray v => exact .error _

end Condition

/-! ### Clauses and options -/

/-- The same fragments, and related values in the same places. -/
structure Clauses.Alike (R : Value → Value → Prop) (c d : Clauses) : Prop where
  fragments_eq : c.fragments = d.fragments
  args : List.Forall₂ R c.args d.args

namespace Clauses

theorem alike_self {c : Clauses} (h : c.args = []) : c.Alike R c where
  fragments_eq := rfl
  args := by
    rw [h]
    exact .nil

theorem Alike.append {c d c' d' : Clauses} (h : c.Alike R d) (h' : c'.Alike R d') :
    (c ++ c').Alike R (d ++ d') where
  fragments_eq := by
    rw [fragments_append, fragments_append, h.fragments_eq, h'.fragments_eq]
  args := List.rel_append h.args h'.args

theorem Alike.sql_eq {c d : Clauses} (h : c.Alike R d) : c.sql = d.sql := by
  rw [sql, sql, h.fragments_eq]

end Clauses

namespace Options

/-- Options that differ in the values of their conditions alone. -/
structure Alike (R : Value → Value → Prop) (o p : Options) : Prop where
  condition : Option.Rel (Condition.Alike R) o.condition p.condition
  grouping : o.grouping = p.grouping
  having : Option.Rel (Condition.Alike R) o.having p.having
  ordering : o.ordering = p.ordering
  limit : o.limit = p.limit
  offset : o.offset = p.offset

variable {o p : Options}

theorem condition_alike {keyword : String} {c d : Condition} (h : c.Alike R d) :
    Result.Rel (Clauses.Alike R)
      (((c.clause keyword).mapError ArgumentError.toError).map fun b => ⟨[b.sql], b.args⟩)
      (((d.clause keyword).mapError ArgumentError.toError).map fun b => ⟨[b.sql], b.args⟩) := by
  have hc : Result.Rel (BoundSql.Alike R) (c.clause keyword) (d.clause keyword) := by
    refine h.render.bind fun b b' hb => .ok ⟨?_, hb.args⟩
    simp only [hb.sql_eq]
  refine (hc.mapError ArgumentError.toError).map fun b b' hb => ⟨?_, hb.args⟩
  simp only [hb.sql_eq]

/-- A clause without conditions has no values. -/
theorem plain_alike {k : Clause} (hn : o.conditionOf k = none) (h : o.clause k = p.clause k) :
    Result.Rel (Clauses.Alike R) (o.clause k) (p.clause k) := by
  rw [← h]
  cases hc : o.clause k with
  | ok c => exact .ok (Clauses.alike_self (clause_plain hn hc).1)
  | error e => exact .error e

theorem Alike.clause (h : o.Alike R p) (k : Clause) :
    Result.Rel (Clauses.Alike R) (o.clause k) (p.clause k) := by
  cases k with
  | condition =>
    rw [Options.clause, Options.clause]
    have hc := h.condition
    generalize o.condition = c, p.condition = d at hc
    cases hc with
    | none => exact .ok (Clauses.alike_self rfl)
    | some hc => exact condition_alike hc
  | having =>
    rw [Options.clause, Options.clause]
    have hc := h.having
    generalize o.having = c, p.having = d at hc
    cases hc with
    | none => exact .ok (Clauses.alike_self rfl)
    | some hc => exact condition_alike hc
  | grouping => exact plain_alike rfl (by rw [Options.clause, Options.clause, h.grouping])
  | ordering => exact plain_alike rfl (by rw [Options.clause, Options.clause, h.ordering])
  | limit => exact plain_alike rfl (by rw [Options.clause, Options.clause, h.limit, h.offset])
  | offset => exact plain_alike rfl rfl

theorem Alike.clausesOf (h : o.Alike R p) :
    ∀ ks : List Clause, Result.Rel (Clauses.Alike R) (o.clausesOf ks) (p.clausesOf ks)
  | [] => .ok (Clauses.alike_self rfl)
  | k :: ks =>
    (h.clause k).bind fun _ _ hf => (Alike.clausesOf h ks).bind fun _ _ hr => .ok (hf.append hr)

theorem Alike.keys_eq (h : o.Alike R p) : o.keys = p.keys := by
  have hsome : ∀ {c d : Option Condition}, Option.Rel (Condition.Alike R) c d →
      c.isSome = d.isSome := by
    intro c d hcd
    cases hcd <;> rfl
  have hhas : o.has = p.has := by
    funext k
    cases k with
    | condition => exact hsome h.condition
    | having => exact hsome h.having
    | grouping => simp only [has, h.grouping]
    | ordering => simp only [has, h.ordering]
    | limit => simp only [has, h.limit]
    | offset => simp only [has, h.offset]
  rw [keys, keys, hhas]

theorem Alike.assemble (h : o.Alike R p) (allowed : List Clause) (operation : String) :
    Result.Rel (Clauses.Alike R) (o.assemble allowed operation) (p.assemble allowed operation) := by
  rw [Options.assemble, Options.assemble, ← h.keys_eq]
  split
  · exact h.clausesOf Clause.all
  · exact .error _

end Options

/-! ### Statements -/

namespace Statement

/-- Entries that assign related values to the same columns, in the same order. -/
def EntriesAlike (R : Value → Value → Prop) (es ds : List (Value × Value)) : Prop :=
  List.Forall₂ (fun e d => e.1 = d.1 ∧ R e.2 d.2) es ds

/-- Statements that differ in the values they assign alone. -/
inductive Alike (R : Value → Value → Prop) : Statement → Statement → Prop
  | select (columns : Value) : Alike R (.select columns) (.select columns)
  | count : Alike R .count .count
  | update {es ds : List (Value × Value)} (h : EntriesAlike R es ds) :
    Alike R (.update (.map es)) (.update (.map ds))
  | delete : Alike R .delete .delete
  | insert {es ds : List (Value × Value)} (h : EntriesAlike R es ds) :
    Alike R (.insert (.map es)) (.insert (.map ds))

theorem assignments_alike {es ds : List (Value × Value)} (h : EntriesAlike R es ds) :
    Result.Rel (fun a b => a.1 = b.1 ∧ List.Forall₂ R a.2 b.2) (assignments (.map es))
      (assignments (.map ds)) := by
  have hcolumns : ∀ {es ds : List (Value × Value)}, EntriesAlike R es ds →
      (es.mapM fun e => assignedColumn e.1) = ds.mapM fun e => assignedColumn e.1 := by
    intro es ds h
    induction h with
    | nil => rfl
    | cons hed _ ih => rw [List.mapM_cons, List.mapM_cons, hed.1, ih]
  have hargs : List.Forall₂ R (es.map (·.2)) (ds.map (·.2)) :=
    List.rel_map (fun _ _ hed => hed.2) h
  have hc := hcolumns h
  cases h with
  | nil => exact .error _
  | cons _ _ =>
    rw [assignments, assignments, hc]
    · exact (Result.Rel.refl (fun _ => rfl) _).bind fun _ _ he => .ok ⟨by rw [he], hargs⟩
    · exact List.cons_ne_nil _ _
    · exact List.cons_ne_nil _ _

variable {o p : Options} {st su : Statement}

/-- Statements that differ in values alone fail alike, or are one text with related values. -/
theorem Alike.build (hs : st.Alike R su) (ho : o.Alike R p) (table : String) :
    Result.Rel (BoundSql.Alike R) (st.build table o) (su.build table p) := by
  cases hs with
  | select columns =>
    refine (ho.assemble Clause.reading "fetch").bind fun c d hcd => ?_
    have hi := Result.Rel.refl (R := Eq) (fun _ => rfl)
      ((projection columns).mapError ArgumentError.toError)
    refine hi.bind fun items _ he => .ok ⟨?_, hcd.args⟩
    simp only [he, hcd.sql_eq]
  | count =>
    refine (ho.assemble Clause.reading "count").bind fun c d hcd => .ok ⟨?_, hcd.args⟩
    simp only [hcd.sql_eq]
  | update h =>
    refine (ho.assemble Clause.writing "set").bind fun c d hcd => ?_
    refine ((assignments_alike h).mapError ArgumentError.toError).bind fun a b hab => .ok ⟨?_, ?_⟩
    · simp only [hab.1, hcd.sql_eq]
    · exact List.rel_append hab.2 hcd.args
  | delete =>
    refine (ho.assemble Clause.writing "delete").bind fun c d hcd => .ok ⟨?_, hcd.args⟩
    simp only [hcd.sql_eq]
  | insert h =>
    refine ((assignments_alike h).mapError ArgumentError.toError).bind fun a b hab => .ok ⟨?_, hab.2⟩
    simp only [hab.1]

end Statement

/-! ### The values of a statement -/

namespace Condition

mutual

/-- The values of a tree as they are bound, leaf by leaf. -/
def values : Condition → List Value
  | .leaf _ args => args.flatMap bound
  | .group cs => valuesOfChildren cs
  | .stray _ => []
termination_by structural c => c

def valuesOfChildren : List (Combinator × Condition) → List Value
  | [] => []
  | (_, c) :: cs => c.values ++ valuesOfChildren cs
termination_by structural cs => cs

end

theorem renderChildren_values {cs : List (Combinator × Condition)}
    (h : ∀ child ∈ cs, ∃ b, child.2.render = .ok b ∧ b.args = child.2.values) (first : Bool) :
    ∃ b, renderChildren first cs = .ok b ∧ b.args = valuesOfChildren cs := by
  induction cs generalizing first with
  | nil => exact ⟨_, rfl, rfl⟩
  | cons child cs ih =>
    obtain ⟨k, c⟩ := child
    obtain ⟨b, hb, hv⟩ := h (k, c) List.mem_cons_self
    obtain ⟨t, ht, hvs⟩ := ih (fun x hx => h x (List.mem_cons_of_mem _ hx)) false
    rw [renderChildren, hb, ht]
    refine ⟨_, rfl, ?_⟩
    simp only [valuesOfChildren, hv, hvs]

theorem TreeOf.render_values {c : Condition} (h : c.TreeOf IsLeaf) :
    ∃ b, c.render = .ok b ∧ b.args = c.values := by
  induction h with
  | leaf h => exact ⟨_, rfl, h.renderLeaf_args⟩
  | group _ ih =>
    obtain ⟨b, hb, hv⟩ := renderChildren_values ih true
    rw [render, hb]
    exact ⟨_, rfl, hv⟩

end Condition

/-- The values of the conditions on rows, and of those on groups. -/
def Options.values (o : Options) : List Value :=
  o.condition.toList.flatMap (·.values) ++ o.having.toList.flatMap (·.values)

/-- The values a statement assigns, and those of its conditions. -/
def Statement.values (o : Options) (st : Statement) : List Value :=
  st.assigns.map (·.2) ++ (st.optionsOf o).values

theorem Options.pieces_args {o : Options}
    (ho : o.EachCondition (Condition.TreeOf Condition.IsLeaf)) :
    o.pieces.flatMap (·.args) = o.values := by
  have hc : ∀ c : Option Condition, (∀ d, c = some d → d.TreeOf Condition.IsLeaf) →
      (c.toList.flatMap (·.piece)).flatMap (·.args) = c.toList.flatMap (·.values) := by
    intro c h
    cases c with
    | none => rfl
    | some d =>
      obtain ⟨b, hb, hv⟩ := (h d rfl).render_values
      simp [Condition.piece_eq hb, hv]
  rw [pieces, values, List.flatMap_append, hc _ fun d hd => ho d (.inl hd),
    hc _ fun d hd => ho d (.inr hd)]

theorem Statement.build_args {table : String} {o : Options} {st : Statement} {b : BoundSql}
    (ho : (st.optionsOf o).EachCondition (Condition.TreeOf Condition.IsLeaf))
    (h : st.build table o = .ok b) : b.args = st.values o := by
  obtain ⟨-, ha⟩ := build_eq_ok Condition.whole_faithful h
  have hassigned : (st.assigns.map assigned).flatMap (·.args) = st.assigns.map (·.2) := by
    rw [List.flatMap_map]
    exact (List.map_eq_flatMap ..).symm
  rw [← ha, Fragment.argsOf_eq, bound?_fragments, Statement.pieces, List.flatMap_append, hassigned,
    Options.pieces_args ho, Statement.values]

/-- Values never shape the text of a condition or a statement: inputs that differ in values alone
give one text, whatever relates their values relates the bound ones place by place, and these are
the inputs' own values in order. -/
theorem Statement.values_never_shape_text (R : Value → Value → Prop) :
    (∀ c d : Condition, c.Alike R d → Result.Rel (BoundSql.Alike R) c.render d.render) ∧
      (∀ (table : String) (o p : Options) (st su : Statement), o.Alike R p → st.Alike R su →
        Result.Rel (BoundSql.Alike R) (st.build table o) (su.build table p)) ∧
      (∀ c : Condition, c.TreeOf Condition.IsLeaf → ∃ b, c.render = .ok b ∧ b.args = c.values) ∧
      ∀ (table : String) (o : Options) (st : Statement) (b : BoundSql),
        o.EachCondition (Condition.TreeOf Condition.IsLeaf) → st.build table o = .ok b →
          b.args = st.values o := by
  refine ⟨fun c d h => h.render, fun table o p st su ho hs => hs.build ho table, ?_, ?_⟩
  · intro c hc
    exact hc.render_values
  · intro table o st b ho hb
    exact build_args (eachCondition_optionsOf ho st) hb

namespace Condition

/-- A leaf with a sequence and a single value. -/
def harmless : Condition := .leaf "a IN ? AND b = ?" [.list [.int 1, .int 2], .int 3]

/-- The same leaf with texts that look like SQL. -/
def hostile : Condition :=
  .leaf "a IN ? AND b = ?" [.tuple [.text "') OR 1 = 1 --", .text "?"], .text "'"]

theorem harmless_alike : harmless.Alike (fun _ _ => True) hostile :=
  .leaf (.cons (.sequence rfl rfl (.cons trivial (.cons trivial .nil)))
    (.cons (.single rfl rfl trivial) .nil))

theorem hostile_treeOf : hostile.TreeOf IsClosedLeaf :=
  .leaf ⟨isLeaf_iff.mpr ⟨by decide, by simp [Value.items?]⟩, by decide⟩

end Condition

def Condition.whereOnly (c : Condition) : Options := { condition := some c }

/-- An update of one column. -/
def Statement.assignTo (v : Value) : Statement := .update (.map [(.text "c", v)])

theorem Statement.hostile_shares_text :
    Result.Rel (BoundSql.Alike fun _ _ => True) Condition.harmless.render
        Condition.hostile.render ∧
      Result.Rel (BoundSql.Alike fun _ _ => True)
        ((assignTo (.int 1)).build "t" Condition.harmless.whereOnly)
        ((assignTo (.text "'")).build "t" Condition.hostile.whereOnly) ∧
      (∃ b, Condition.hostile.render = .ok b ∧ b.args = Condition.hostile.values) ∧
      ∃ b, (assignTo (.text "'")).build "t" Condition.hostile.whereOnly = .ok b ∧
        b.args = (assignTo (.text "'")).values Condition.hostile.whereOnly := by
  obtain ⟨hrender, hbuild, hvalues, hargs⟩ := values_never_shape_text fun _ _ => True
  have ho : Options.Alike (fun _ _ => True) Condition.harmless.whereOnly
      Condition.hostile.whereOnly :=
    ⟨.some Condition.harmless_alike, rfl, .none, rfl, rfl, rfl⟩
  have hs : Alike (fun _ _ => True) (assignTo (.int 1)) (assignTo (.text "'")) :=
    .update (.cons ⟨rfl, trivial⟩ .nil)
  have hc : Condition.hostile.whereOnly.EachCondition
      (Condition.TreeOf Condition.IsClosedLeaf) := by
    intro c h
    rcases h with h | h
    · obtain rfl := Option.some.inj h
      exact Condition.hostile_treeOf
    · contradiction
  have hl : Condition.hostile.TreeOf Condition.IsLeaf :=
    Condition.hostile_treeOf.mono fun _ _ h => h.1
  have hassign : IsAssignment (.map [(.text "c", .text "'")]) :=
    ⟨_, rfl, List.cons_ne_nil _ _, by simp⟩
  obtain ⟨b, hb⟩ : ∃ b, (assignTo (.text "'")).build "t" Condition.hostile.whereOnly = .ok b :=
    IsSound.build_ok ⟨hc, fun _ h => (nomatch h), fun _ h => (nomatch h)⟩ hassign rfl
      (Options.hasShortPage_of_limit_none rfl)
  exact ⟨hrender _ _ Condition.harmless_alike, hbuild "t" _ _ _ _ ho hs, hvalues _ hl, b, hb,
    hargs "t" _ _ b (fun c h => (hc c h).mono fun _ _ hl => hl.1) hb⟩

end RowQuery

import RowQuery.Proofs.Alignment
import RowQuery.Proofs.Reading
import RowQuery.Row.Record

/-! The conditions that pin a row, as text. Each column of the key is quoted and compared with one
placeholder, whatever its name is, so the values of the key bind in their order; several columns
are joined in parentheses. Statements with no other clause end in these conditions. -/

namespace RowQuery

open Sql Quoting

namespace Record

/-- The text that pins a column, with a placeholder for each bound value. -/
def pinText (c : String × Value) : String :=
  quote c.1 ++ " = " ++ String.ofList (Condition.marksOf c.2)

/-- The text that pins the columns of a key: one comparison, or several in parentheses. -/
def pinsText : List (String × Value) → String
  | [c] => pinText c
  | cs => "( " ++ Text.join " && " (cs.map pinText) ++ " )"

/-- The bound values of the columns of a key. -/
def pinsArgs (cs : List (String × Value)) : List Value := cs.flatMap fun c => Condition.bound c.2

theorem pin_binds (name : String) : Binds (quote name ++ " = ?").toList 1 := by
  have hp : Binds " = ?".toList 1 := by decide
  rw [String.toList_append]
  exact (quote_binds name).append hp

theorem ofText_pin {name : String} {v : Value} (hv : v.items? ≠ some []) :
    Condition.ofText (quote name ++ " = ?") [v] =
      .ok (.leaf (quote name ++ " = ?") [v]) := by
  refine Condition.isLeaf_iff.mpr ⟨?_, fun u hu => ?_⟩
  · rw [length_placeholders, (pin_binds name).count_eq]
    rfl
  · rwa [List.mem_singleton.mp hu]

/-- A pinned column is written with the marks of its value in the place of its placeholder. -/
theorem render_pin {name : String} {v : Value} {leaf : Condition}
    (h : Condition.ofText (quote name ++ " = ?") [v] = .ok leaf) :
    leaf.render = .ok ⟨pinText (name, v), Condition.bound v⟩ := by
  obtain ⟨rfl, hl⟩ := Condition.ofText_eq_ok h
  have hequals : Binds (quote name ++ " = ").toList ([] : List (List Char)).length := by
    have hp : Binds " = ".toList 0 := by decide
    rw [String.toList_append]
    exact (quote_binds name).append hp
  have hsplit : (quote name ++ " = ?").toList = (quote name ++ " = ").toList ++ ['?'] := by
    rw [String.toList_append, String.toList_append, List.append_assoc]
    rfl
  have hmark : outside.fill id ['?'] [Condition.marksOf v] = Condition.marksOf v := by
    rw [fill_cons, if_pos ⟨rfl, rfl⟩, fill_nil, List.append_nil]
  have htext : (Condition.renderLeaf (quote name ++ " = ?") [v]).sql = pinText (name, v) := by
    rw [← String.toList_inj, Condition.toList_renderLeaf, List.map_singleton, hsplit,
      ← List.nil_append [Condition.marksOf v], fill_append_of_binds id hequals, hmark, fill_no_pieces,
      List.map_id]
    simp [pinText]
  have hargs : (Condition.renderLeaf (quote name ++ " = ?") [v]).args = Condition.bound v := by
    rw [hl.renderLeaf_args, List.flatMap_singleton]
  rw [Condition.render, ← htext, ← hargs]

/-- Conditions joined by `and` are written one after another. -/
theorem renderChildren_and {leaves : List Condition} {bs : List BoundSql}
    (h : List.Forall₂ (fun (c : Condition) b => c.render = .ok b) leaves bs) (first : Bool) :
    Condition.renderChildren first (leaves.map fun c => (.and, c)) =
      .ok ⟨(if first ∨ bs = [] then "" else " && ") ++ Text.join " && " (bs.map (·.sql)),
        bs.flatMap (·.args)⟩ := by
  induction h generalizing first with
  | nil =>
    rw [List.map_nil, Condition.renderChildren, if_pos (.inr rfl)]
    rfl
  | @cons c b leaves bs hc hrest ih =>
    rw [List.map_cons, Condition.renderChildren, hc, Result.ok_bind, ih false, Result.ok_bind]
    refine congrArg Except.ok ?_
    cases bs with
    | nil => cases first <;> simp [Condition.joiner, Text.join]
    | cons d ds => cases first <;> simp [Condition.joiner, Text.join, String.append_assoc]

/-- The conditions that pin a key are written as its columns in their order, with their values. -/
theorem render_pinned {key : List (String × Value)} {c : Condition} (h : pinned key = .ok c) :
    c.render = .ok ⟨pinsText key, pinsArgs key⟩ := by
  obtain ⟨leaves, hleaves, h⟩ := Result.bind_eq_ok.mp h
  have hrender : List.Forall₂ (fun (c : Condition) b => c.render = .ok b) leaves
      (key.map fun c => ⟨pinText c, Condition.bound c.2⟩) := by
    rw [List.forall₂_map_right_iff]
    exact (Result.mapM_eq_ok.mp hleaves).flip.imp fun _ _ => render_pin
  have hmany : (Condition.groupOf .and leaves).render =
      .ok ⟨"( " ++ Text.join " && " (key.map pinText) ++ " )", pinsArgs key⟩ := by
    rw [Condition.groupOf, Condition.render, renderChildren_and hrender true, Result.ok_bind]
    refine congrArg Except.ok ?_
    simp [pinsArgs, List.flatMap_map, Function.comp_def]
  split at h
  · rename_i leaf
    obtain rfl := Except.ok.inj h
    cases key with
    | nil => cases hrender
    | cons d ds =>
      obtain ⟨hone, hnone⟩ := List.forall₂_cons.mp hrender
      obtain rfl := List.map_eq_nil_iff.mp (List.forall₂_nil_left_iff.mp hnone)
      rw [hone, pinsText, pinsArgs, List.flatMap_singleton]
  · rename_i hne
    obtain rfl := Except.ok.inj h
    rw [hmany, pinsText]
    rintro d rfl
    obtain ⟨leaf, hleaf⟩ := List.length_eq_one_iff.mp hrender.length_eq
    exact hne leaf hleaf

theorem pinned_ok {key : List (String × Value)} (h : ∀ c ∈ key, c.2.items? ≠ some []) :
    ∃ c, pinned key = .ok c := by
  have hleaves : key.mapM (fun c => Condition.ofText (quote c.1 ++ " = ?") [c.2]) =
      .ok (key.map fun c => .leaf (quote c.1 ++ " = ?") [c.2]) := by
    rw [Result.mapM_eq_ok, List.forall₂_map_right_iff, List.forall₂_same]
    exact fun c hc => ofText_pin (h c hc)
  rw [pinned, hleaves, Result.ok_bind]
  split <;> exact ⟨_, rfl⟩

/-! ### Statements on one row -/

end Record

/-- Options that hold nothing but a condition on rows are written as this condition. -/
theorem Options.assemble_condition {c : Condition} {b : BoundSql} (h : c.render = .ok b)
    (operation : String) : ∃ clauses : Clauses,
      ({ condition := some c } : Options).assemble Clause.writing operation = .ok clauses ∧
        clauses.sql = " WHERE " ++ b.sql ∧ clauses.args = b.args := by
  have hall : ({ condition := some c } : Options).clausesOf Clause.all =
      .ok ⟨["WHERE " ++ b.sql], b.args⟩ := by
    have hc : ({ condition := some c } : Options).clause .condition =
        .ok ⟨["WHERE " ++ b.sql], b.args⟩ := by
      rw [clause_of_conditionOf rfl, Condition.clause, h]
      rfl
    have hrest : ({ condition := some c } : Options).clausesOf
        [.grouping, .having, .ordering, .limit, .offset] = .ok {} := rfl
    rw [show Clause.all = .condition :: [.grouping, .having, .ordering, .limit, .offset] from rfl,
      clausesOf, hc, hrest]
    exact congrArg Except.ok (congrArg₂ Clauses.mk (List.append_nil _) (List.append_nil _))
  refine ⟨_, (assemble_taken operation rfl).trans hall, ?_, rfl⟩
  have hblank : " WHERE " = " " ++ "WHERE " := by decide
  rw [hblank, String.append_assoc]
  rfl

namespace Table

open Record

/-- The statement that deletes the row with a key. -/
def deletion (t : Table) (key : List (String × Value)) : BoundSql :=
  ⟨"DELETE FROM " ++ quote t.name ++ " WHERE " ++ pinsText key, pinsArgs key⟩

/-- The statement that makes assignments to the row with a key. -/
def updating (t : Table) (assigned : String × List Value) (key : List (String × Value)) :
    BoundSql :=
  ⟨"UPDATE " ++ quote t.name ++ " SET " ++ assigned.1 ++ " WHERE " ++ pinsText key,
    assigned.2 ++ pinsArgs key⟩

variable {t : Table} {key : List (String × Value)} {c : Condition}

theorem delete_pinned (h : pinned key = .ok c) :
    Sql.delete t.name { condition := some c } = .ok (t.deletion key) := by
  obtain ⟨clauses, hc, hs, ha⟩ := Options.assemble_condition (render_pinned h) "delete"
  refine delete_eq_ok.mpr ⟨clauses, hc, ?_⟩
  rw [hs, ha, deletion, ← String.append_assoc]

theorem update_pinned (h : pinned key = .ok c) (values : Value) :
    Sql.update t.name { condition := some c } values =
      ((assignments values).map fun assigned => t.updating assigned key).mapError
        ArgumentError.toError := by
  obtain ⟨clauses, hc, hs, ha⟩ := Options.assemble_condition (render_pinned h) "set"
  rw [Sql.update, hc, Result.ok_bind]
  cases assignments values with
  | error e => rfl
  | ok assigned =>
    refine congrArg Except.ok (?_ : _ = t.updating assigned key)
    rw [hs, ha, updating, ← String.append_assoc]

end Table

/-! ### Keys of single values -/

namespace Record

/-- The text that pins the columns of a key to single values. -/
def keyText : List String → String
  | [name] => quote name ++ " = ?"
  | names => "( " ++ Text.join " && " (names.map fun name => quote name ++ " = ?") ++ " )"

theorem pinsText_of_single {key : List (String × Value)} (h : ∀ c ∈ key, c.2.items? = none) :
    pinsText key = keyText (key.map (·.1)) := by
  have hpin : ∀ c ∈ key, pinText c = quote c.1 ++ " = ?" := by
    intro c hc
    have hmark : " = ?" = " = " ++ String.ofList ['?'] := by decide
    rw [pinText, Condition.marksOf, h c hc, hmark, String.append_assoc]
  rcases key with _ | ⟨c, _ | ⟨d, cs⟩⟩
  · rfl
  · exact hpin c List.mem_cons_self
  · rw [pinsText, List.map_congr_left hpin, List.map_cons, List.map_cons, keyText]
    · simp [Function.comp_def]
    · simp
    · simp

theorem pinsArgs_of_single {key : List (String × Value)} (h : ∀ c ∈ key, c.2.items? = none) :
    pinsArgs key = key.map (·.2) := by
  rw [pinsArgs, List.map_eq_flatMap]
  refine List.flatMap_congr fun c hc => ?_
  rw [Condition.bound, h c hc]
  rfl

end Record

/-! ### Values of a key -/

namespace Row

/-- The columns of a key with the values a row has for them. -/
def keyValues (r : Row) (key : List Value) : Except Fault (List (String × Value)) :=
  key.mapM fun c => match c with
    | .text name => (r.getD c .null).map fun v => (name, v)
    | _ => .error .type

/-- Some columns have these values in a row. -/
def HasKey (r : Row) (columns : List String) (values : List Value) : Prop :=
  List.Forall₂ (fun name v => r.getD (.text name) .null = .ok v) columns values

theorem HasKey.keyValues_eq {r : Row} {columns : List String} {values : List Value}
    (h : r.HasKey columns values) :
    r.keyValues (columns.map .text) = .ok (columns.zip values) := by
  rw [keyValues, Result.mapM_eq_ok]
  induction h with
  | nil => exact .nil
  | @cons name v columns values hv _ ih =>
    refine .cons ?_ ih
    simp only [hv, Result.ok_map]

theorem HasKey.keys_zip {r : Row} {columns : List String} {values : List Value}
    (h : r.HasKey columns values) : Keyed.keys (columns.zip values) = columns :=
  List.map_fst_zip (Nat.le_of_eq h.length_eq)

end Row

end RowQuery

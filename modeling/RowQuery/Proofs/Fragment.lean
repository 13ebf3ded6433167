import RowQuery.Proofs.Binding

/-! Statements as fragments. A fragment is text that comes without values, or a piece of SQL that
comes with some. When no fragment leaves a quote open, and each has a placeholder for every value
it comes with, the placeholders of the whole text are those of its fragments. -/

namespace RowQuery.Sql

open Quoting

inductive Fragment
  | plain (text : String)
  | bound (b : BoundSql)

namespace Fragment

def text : Fragment → List Char
  | .plain s => s.toList
  | .bound b => b.sql.toList

def args : Fragment → List Value
  | .plain _ => []
  | .bound b => b.args

/-- The piece of SQL of a fragment that comes with values. -/
def bound? : Fragment → Option BoundSql
  | .plain _ => none
  | .bound b => some b

@[simp] theorem text_plain (s : String) : (plain s).text = s.toList := rfl

@[simp] theorem text_bound (b : BoundSql) : (bound b).text = b.sql.toList := rfl

@[simp] theorem args_plain (s : String) : (plain s).args = [] := rfl

/-- A closed fragment with one placeholder for every value it comes with. -/
def IsAligned (f : Fragment) : Prop := Binds f.text f.args.length

def textOf (fs : List Fragment) : List Char := fs.flatMap text

def argsOf (fs : List Fragment) : List Value := fs.flatMap args

/-- The offsets of the placeholders of fragments that come with values, each read by itself, where
the first fragment begins at offset `i`. -/
def offsetsOf : (i : Nat) → List Fragment → List Nat
  | _, [] => []
  | i, .plain s :: fs => offsetsOf (i + s.length) fs
  | i, .bound b :: fs => (placeholders b.sql).map (i + ·) ++ offsetsOf (i + b.sql.length) fs

@[simp] theorem textOf_nil : textOf [] = [] := rfl

@[simp] theorem textOf_cons (f : Fragment) (fs : List Fragment) :
    textOf (f :: fs) = f.text ++ textOf fs := rfl

@[simp] theorem argsOf_cons (f : Fragment) (fs : List Fragment) :
    argsOf (f :: fs) = f.args ++ argsOf fs := rfl

@[simp] theorem textOf_append (fs gs : List Fragment) :
    textOf (fs ++ gs) = textOf fs ++ textOf gs := List.flatMap_append

@[simp] theorem argsOf_append (fs gs : List Fragment) :
    argsOf (fs ++ gs) = argsOf fs ++ argsOf gs := List.flatMap_append

/-- The values of fragments are those of the pieces that come with values. -/
theorem argsOf_eq (fs : List Fragment) : argsOf fs = (fs.filterMap bound?).flatMap (·.args) := by
  induction fs with
  | nil => rfl
  | cons f fs ih =>
    cases f with
    | plain s =>
      rw [argsOf_cons, List.filterMap_cons_none rfl, ← ih]
      rfl
    | bound b =>
      have hb : bound? (.bound b) = some b := rfl
      rw [argsOf_cons, List.filterMap_cons_some hb, List.flatMap_cons, ← ih, args]

theorem binds_textOf {fs : List Fragment} (h : ∀ f ∈ fs, f.IsAligned) :
    Binds (textOf fs) (argsOf fs).length := by
  induction fs with
  | nil => exact Binds.nil
  | cons f fs ih =>
    rw [textOf_cons, argsOf_cons, List.length_append]
    exact (h f List.mem_cons_self).append (ih fun g hg => h g (List.mem_cons_of_mem f hg))

theorem offsets_textOf {fs : List Fragment} (h : ∀ f ∈ fs, f.IsAligned) (i : Nat) :
    outside.offsets i (textOf fs) = offsetsOf i fs := by
  induction fs generalizing i with
  | nil => rfl
  | cons f fs ih =>
    have hf := h f List.mem_cons_self
    have ht := ih fun g hg => h g (List.mem_cons_of_mem f hg)
    rw [textOf_cons, offsets_append, hf.run_eq, ht]
    cases f with
    | plain s =>
      have hnil : outside.offsets i s.toList = [] :=
        List.eq_nil_of_length_eq_zero ((length_offsets _ _ _).trans hf.count_eq)
      rw [text, hnil, offsetsOf, String.length_toList, List.nil_append]
    | bound b =>
      rw [text, offsetsOf, offsets_eq_map, ← placeholders_eq_offsets, String.length_toList]

end Fragment

end RowQuery.Sql

import RowQuery.Condition.Rendering
import RowQuery.Sql.Modifier

/-!
The options of a query and the clauses they become. Clauses are written in a fixed order; an offset
is written with the limit, and without one it is not written at all. Numbers of too many digits
cannot be written.
-/

namespace RowQuery

/-- What a query holds for each clause. -/
structure Options where
  condition : Option Condition := none
  grouping : Option Grouping := none
  having : Option Condition := none
  ordering : Option Ordering := none
  limit : Option Value := none
  offset : Option Value := none

/-- Clauses as fragments of SQL, and the values of their placeholders. -/
structure Clauses where
  fragments : List String := []
  args : List Value := []

namespace Clauses

/-- The fragments after a blank each. -/
def sql (c : Clauses) : String :=
  if c.fragments.isEmpty then "" else " " ++ Text.join " " c.fragments

def append (c d : Clauses) : Clauses := ⟨c.fragments ++ d.fragments, c.args ++ d.args⟩

instance : Append Clauses := ⟨append⟩

end Clauses

namespace Options

def has (o : Options) : Clause → Bool
  | .condition => o.condition.isSome
  | .grouping => o.grouping.isSome
  | .having => o.having.isSome
  | .ordering => o.ordering.isSome
  | .limit => o.limit.isSome
  | .offset => o.offset.isSome

/-- The clauses that are present, in the order of the statement. -/
def keys (o : Options) : List Clause := Clause.all.filter o.has

def erase (o : Options) : Clause → Options
  | .condition => { o with condition := none }
  | .grouping => { o with grouping := none }
  | .having => { o with having := none }
  | .ordering => { o with ordering := none }
  | .limit => { o with limit := none }
  | .offset => { o with offset := none }

def clear (o : Options) (keys : List Clause) : Options := keys.foldl erase o

/-- What one clause writes: nothing when it is absent, and nothing for an offset, which is part of
the limit. -/
def clause (o : Options) : Clause → Except Error Clauses
  | .condition => match o.condition with
    | none => .ok {}
    | some c => ((c.clause "WHERE").mapError ArgumentError.toError).map fun b => ⟨[b.sql], b.args⟩
  | .grouping => match o.grouping with
    | none => .ok {}
    | some g => .ok ⟨[g.sql "GROUP BY"], []⟩
  | .having => match o.having with
    | none => .ok {}
    | some c => ((c.clause "HAVING").mapError ArgumentError.toError).map fun b => ⟨[b.sql], b.args⟩
  | .ordering => match o.ordering with
    | none => .ok {}
    | some g => .ok ⟨[g.sql "ORDER BY"], []⟩
  | .limit => match o.limit, o.offset with
    | none, _ => .ok {}
    | some n, none => do return ⟨["LIMIT " ++ (← n.integerText)], []⟩
    | some n, some m => do
      let skipped ← m.integerText
      let taken ← n.integerText
      return ⟨["LIMIT " ++ skipped ++ ", " ++ taken], []⟩
  | .offset => .ok {}

/-- The clauses of a list, one after another. -/
def clausesOf (o : Options) : List Clause → Except Error Clauses
  | [] => .ok {}
  | k :: ks => do
    let first ← o.clause k
    let rest ← o.clausesOf ks
    return first ++ rest

/-- The clauses of a statement that takes the `allowed` ones. -/
def assemble (o : Options) (allowed : List Clause) (operation : String) : Except Error Clauses :=
  match o.keys.filter fun k => !allowed.contains k with
  | [] => o.clausesOf Clause.all
  | extra => .error (.clauses operation extra)

end Options

end RowQuery

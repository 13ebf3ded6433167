import RowQuery.Query.Options
import RowQuery.Sql.Projection

/-!
Whole statements. Each is a piece of SQL and the values of its placeholders; assigned values come
before those of the conditions, as their placeholders do.
-/

namespace RowQuery.Sql

def select (table : String) (o : Options) (columns : Value) : Except Error BoundSql := do
  let clauses ← o.assemble Clause.reading "fetch"
  let items ← (projection columns).mapError ArgumentError.toError
  return ⟨"SELECT " ++ items ++ " FROM " ++ quote table ++ clauses.sql, clauses.args⟩

def count (table : String) (o : Options) : Except Error BoundSql := do
  let clauses ← o.assemble Clause.reading "count"
  return ⟨"SELECT COUNT(*) FROM " ++ quote table ++ clauses.sql, clauses.args⟩

def update (table : String) (o : Options) (values : Value) : Except Error BoundSql := do
  let clauses ← o.assemble Clause.writing "set"
  let (columns, args) ← (assignments values).mapError ArgumentError.toError
  return ⟨"UPDATE " ++ quote table ++ " SET " ++ columns ++ clauses.sql, args ++ clauses.args⟩

def delete (table : String) (o : Options) : Except Error BoundSql := do
  let clauses ← o.assemble Clause.writing "delete"
  return ⟨"DELETE FROM " ++ quote table ++ clauses.sql, clauses.args⟩

def insert (table : String) (values : Value) : Except Error BoundSql := do
  let (columns, args) ← (assignments values).mapError ArgumentError.toError
  return ⟨"INSERT INTO " ++ quote table ++ " SET " ++ columns, args⟩

end RowQuery.Sql

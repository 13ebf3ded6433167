import RowQuery.Database.Table
import RowQuery.Query.Configuration

/-!
Queries. A query holds its table, its options and the rows of its last fetch. Statements are
compiled before anything is sent; changing rows forgets the fetched ones before it is sent, and a
count is taken from fetched rows when there are any.
-/

namespace RowQuery

structure Query where
  table : Table
  options : Options := {}
  /-- The numbers of the rows fetched last. -/
  results : Option (List Nat) := none

/-- Something a query does, to itself and to the world. -/
abbrev QueryAct (α : Type) := ExceptT Error (StateM (Query × World)) α

namespace Query

/-- An act on the world as one of a query. -/
def onWorld {α : Type} (a : Act α) : QueryAct α := ExceptT.mk do
  let (q, w) ← get
  let (r, w) := a.run.run w
  set (q, w)
  return r

/-- A change of options as an act of a query. -/
def configure {α : Type} (e : Edit α) : QueryAct α := ExceptT.mk do
  let (q, w) ← get
  let (r, o) := e.run.run q.options
  set ({ q with options := o }, w)
  return r

/-- A query on a table, with conditions when any are given. -/
def create (table : Table) (conditions : List Value) : Except Error Query :=
  match conditions with
  | [] => .ok { table }
  | value :: args =>
    match (Options.filterBy value args).run.run {} with
    | (.ok (), options) => .ok { table, options }
    | (.error e, _) => .error e

/-- The statement a query would run, by its kind. -/
def toSql (q : Query) (kind columns values : Value) : Except Error BoundSql :=
  match kind with
  | .text "select" => Sql.select q.table.name q.options columns
  | .text "count" => Sql.count q.table.name q.options
  | .text "update" => Sql.update q.table.name q.options values
  | .text "delete" => Sql.delete q.table.name q.options
  | v => refuse (.statementKind v)

/-- Runs a statement on the database of the query's table, and gives its number. -/
def execute (b : BoundSql) : QueryAct Nat := do
  match (← get).1.table.database with
  | none => throw (.database .detached)
  | some d => onWorld do
    let s ← Statement.prepare d b.sql
    Statement.execute s (.list b.args)
    return s

def setResults (ids : Option (List Nat)) : QueryAct Unit :=
  modify fun (q, w) => ({ q with results := ids }, w)

/-- Fetches rows: those of the table's model, or plain rows of the given columns. -/
def fetch (columns : Value := .null) : QueryAct (List Nat) := do
  let q := (← get).1
  let b ← onWorld (Act.ofExcept (Sql.select q.table.name q.options columns))
  let s ← execute b
  let ids ← match columns with
    | .null => onWorld do Statement.fetchAll s (.model (← q.table.model)) (some q.table)
    | _ => onWorld (Statement.fetchAll s (.model .result) none)
  setResults (some ids)
  return ids

/-- The first row, if there is any. -/
def first : QueryAct (Option Nat) := do return (← fetch).head?

/-- The number of rows. -/
def count : QueryAct Int := do
  let q := (← get).1
  match q.results with
  | some (id :: ids) => return (id :: ids).length
  | _ =>
    let b ← onWorld (Act.ofExcept (Sql.count q.table.name q.options))
    let s ← execute b
    onWorld do
      let v ← Act.ofFault (← Statement.get s).firstColumn
      if v.isTruthy then Act.ofExcept v.integer else return 0

/-- Runs a statement that changes rows, and counts the rows changed. -/
def change (b : Except Error BoundSql) : QueryAct Int := do
  let b ← onWorld (Act.ofExcept b)
  setResults none
  let s ← execute b
  return (← onWorld (Statement.get s)).rowCount

/-- Sets columns of the rows and counts the rows changed. -/
def update (values : Value) : QueryAct Int := do
  let q := (← get).1
  change (Sql.update q.table.name q.options values)

/-- Sets one column of the rows. -/
def updateColumn (column value : Value) : QueryAct Int :=
  match column with
  | .text _ => update (.map [(column, value)])
  | _ => throw (.argument .valueAlone)

/-- Deletes the rows and counts them. -/
def delete : QueryAct Int := do
  let q := (← get).1
  change (Sql.delete q.table.name q.options)

/-- The values without those that are equal to an earlier one. -/
def distinct (values : List Value) : List Value :=
  values.foldl (fun seen v => if seen.any fun u => u.same v then seen else seen ++ [v]) []

/-- The distinct values of a column, in the order of the rows that hold them first. -/
def pluck (key : Value) : QueryAct (List Value) := do
  let ids ← match (← get).1.results with
    | some ids => pure ids
    | none => fetch
  onWorld do
    let values ← ids.mapM fun id => do Act.ofFault ((← World.row id).get key)
    return distinct values

/-- A query as its table and the words for its clauses. -/
def literal (q : Query) : String :=
  let keys := q.options.keys.map Clause.word
  "<Query " ++ Text.literal q.table.name ++ " " ++
    (if keys.isEmpty then "all" else Text.join ", " keys) ++ ">"

end Query

end RowQuery

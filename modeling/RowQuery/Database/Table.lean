import RowQuery.Database.Basic

/-!
Tables. A table of a database inserts rows and knows its primary key, which it asks the database
for once; a table that is part of none only gives its name to statements.
-/

namespace RowQuery.Table

/-- The statement that reads a table's primary key, in the order of its columns. -/
def primaryKeySql : String :=
  "SELECT COLUMN_NAME\nFROM INFORMATION_SCHEMA.KEY_COLUMN_USAGE\n" ++
    "WHERE TABLE_SCHEMA = DATABASE() AND TABLE_NAME = ? AND CONSTRAINT_NAME = 'PRIMARY'\n" ++
    "ORDER BY ORDINAL_POSITION"

def literal (t : Table) : String := "<Table " ++ Text.literal t.name ++ ">"

/-- The number of the table's database; a table without one has no such attribute. -/
def databaseId (t : Table) : Act Nat :=
  match t.database with
  | some id => return id
  | none => Act.fail .attribute

/-- The model that the table's rows are read into. -/
def model (t : Table) : Act Model := do Database.modelForTable (← t.databaseId) (.text t.name)

/-- Inserts a row of column values and counts the rows inserted. -/
def insert (t : Table) (values : Value) : Act Int := do
  let b ← Act.ofExcept (Sql.insert t.name values)
  let s ← Statement.prepare (← t.databaseId) b.sql
  Statement.execute s (.list b.args)
  return (← Statement.get s).rowCount

/-- Inserts a row of one column. -/
def insertColumn (t : Table) (column value : Value) : Act Int := do
  if !column.isKey then Act.fail .type
  t.insert (.map [(column, value)])

/-- The rows of a failed discovery as an error of the table. -/
def asKeyError (t : Table) (e : Error) : Error :=
  match e with
  | .database d => .database (.primaryKeyUnknown t.name d.message)
  | e => e

/-- The columns of the primary key as the database gives them. -/
def readPrimaryKey (t : Table) : Act (List Value) := do
  let rows ← tryCatch (do
      let s ← Statement.prepare (← t.databaseId) primaryKeySql
      Statement.execute s (.list [.text t.name])
      let s ← Statement.get s
      Act.ofFault (s.readRows .result none))
    fun e => throw (t.asKeyError e)
  Act.ofFault (rows.mapM fun r => r.get (.text "COLUMN_NAME"))

/-- The columns of the primary key, read from the database once. -/
def primaryKey (t : Table) : Act (List Value) := do
  match Keyed.find? (← get).primaryKeys t.id with
  | some key => return key
  | none =>
    let key ← t.readPrimaryKey
    modify fun w => { w with primaryKeys := Keyed.put w.primaryKeys t.id key }
    return key

/-- The columns of a new record. The name `self` is not free for a column. -/
def newColumns (values : Value) : Except Fault (List (String × Value)) :=
  match values with
  | .map entries => match Row.textKeys? entries with
    | some columns => if Keyed.hasKey columns "self" then .error .type else .ok columns
    | none => .error .type
  | _ => .error .type

/-- A record that is not saved yet. -/
def new (t : Table) (values : Value) : Act Nat := do
  let columns ← Act.ofFault (newColumns values)
  let model ← t.model
  if !model.isRecord then Act.refuse (.notSavable model.name)
  let row ← Act.ofFault (Row.ofColumns model columns)
  World.addRow { row with owner := some (.table t) }

end RowQuery.Table

import RowQuery.Database.Prepared
import RowQuery.Sql.MainTable
import RowQuery.Sql.Statement

/-!
Databases. A database maps the names of tables to the models their rows are read into, keeps one
table per name, and runs SQL. A mapping of models is taken as a whole or not at all.
-/

namespace RowQuery.Database

/-- The entries of a mapping from tables to models, or what is wrong with the first bad one. -/
def readModels : List (Value × Value) → Except ArgumentError (List (String × Model))
  | [] => .ok []
  | (name, model) :: rest =>
    match name with
    | .text s =>
      if s.isEmpty then .error (.tableName name)
      else match model with
        | .model m => (readModels rest).map fun ms => (s, m) :: ms
        | v => .error (.modelClass s v)
    | v => .error (.tableName v)

/-- The database with further models registered. -/
def withModels (d : Database) (models : Value) : Except Error Database :=
  match models with
  | .map entries => match readModels entries with
    | .ok ms => .ok { d with models := Keyed.putAll d.models ms }
    | .error e => refuse e
  | _ => refuse .modelsType

def registerModels (id : Nat) (models : Value) : Act Unit := do
  let d ← World.database id
  let d ← Act.ofExcept (d.withModels models)
  World.setDatabase id d

/-- A new database, with models when any are given. -/
def create (name : String) (models : Value) : Act Nat := do
  let d ← if models.isTruthy then Act.ofExcept (Database.withModels { name } models)
    else pure { name }
  World.addDatabase d

/-- The model that the rows of a table are read into. -/
def modelFor (d : Database) (table : String) : Model :=
  (Keyed.find? d.models table).getD Model.record

def modelForTable (id : Nat) (name : Value) : Act Model := do
  match name with
  | .text s => return (← World.database id).modelFor s
  | v => Act.refuse (.tableName v)

/-- The table that a database knows by a name; none has the empty one. -/
def knownTable? (d : Database) (id : Nat) : Value → Option Table
  | .text s =>
    if s.isEmpty then none
    else (Keyed.find? d.tables s).map fun n => { id := n, name := s, database := some id }
  | _ => none

/-- The table of a name, always the same one. -/
def table (id : Nat) (name : Value) : Act Table := do
  if !name.isKey then Act.fail .type
  let d ← World.database id
  match d.knownTable? id name with
  | some t => return t
  | none =>
    let t ← World.addTable name (some id)
    let d ← World.database id
    World.setDatabase id { d with tables := Keyed.put d.tables t.name t.id }
    return t

/-- What SQL is answered with: rows, or a count of rows. -/
inductive Answer
  | rows (ids : List Nat)
  | count (n : Int)

/-- The model and the table for the rows of a text without an explicit model: those registered for
its main table, and plain rows when there are none. -/
def sourceOf (id : Nat) (sql : String) : Act (Model × Option Table) := do
  let d ← World.database id
  match Sql.mainTable? sql with
  | none => return (.result, none)
  | some name => match Keyed.find? d.models name with
    | none => return (.result, none)
    | some model => return (model, some (← table id (.text name)))

/-- Runs SQL. Selected rows are read into a model, changes are answered with a count of rows, and
anything else with plain rows. -/
def query (id : Nat) (sql : String) (arguments : Value := .null) (model : Value := .null) :
    Act Answer := do
  let s ← Statement.prepare id sql
  Statement.execute s arguments
  let verb := Sql.verb sql
  if verb = "select" then
    match model with
    | .null =>
      let (model, table) ← sourceOf id sql
      return .rows (← Statement.fetchAll s (.model model) table)
    | model => return .rows (← Statement.fetchAll s model none)
  else if Sql.countsRows verb then return .count (← Statement.get s).rowCount
  else return .rows (← Statement.fetchAll s (.model .result) none)

/-- The statement that asks for the number the last insertion gave its row. -/
def lastInsertSql : String := "SELECT LAST_INSERT_ID() AS `last_insert_id`"

/-- The number the last insertion gave its row: the one that the statement prepared last was
answered with, or else the one the database gives. -/
def lastInsertId (id : Nat) : Act Int := do
  let known ← match (← World.database id).last with
    | some s => pure (← Statement.get s).lastRowId
    | none => pure .null
  if known.isTruthy then Act.ofExcept known.integer
  else
    match ← query id lastInsertSql with
    | .rows (first :: _) =>
      let row ← World.row first
      if (Keyed.hasKey row.toColumns "last_insert_id") then
        let v ← Act.ofFault (row.get (.text "last_insert_id"))
        if v.isTruthy then Act.ofExcept v.integer else return 0
      else throw (.database .noInsertId)
    | _ => throw (.database .noInsertId)

/-- Closes the connection of a database. -/
def close (id : Nat) : Act Unit := do
  let d ← World.database id
  World.setDatabase id { d with isOpen := false }

end RowQuery.Database

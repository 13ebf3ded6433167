import RowQuery.Condition.Rendering
import RowQuery.Row.Row
import RowQuery.Server.Server

/-!
The state that databases, statements and rows share. The driver answers each statement it is sent
with the next outcome of a queue; rows, databases and prepared statements are known by their
numbers, so that all who hold one see its changes. An act that fails keeps the changes it made
before it failed.
-/

namespace RowQuery

/-- What the driver answers to one statement. -/
inductive Outcome
  /-- A result. Without columns there is no result set, and rows are left unread. -/
  | result (columns : List String) (rows : List (List Value)) (rowCount : Int) (lastRowId : Value)
  /-- The driver failed, with its code and message. It had given the columns of a result when it
  failed at the rows of it, and none when it failed before. -/
  | failure (code : Int) (text : String) (columns : List String := [])

namespace Outcome

/-- The outcome of a statement nothing was queued for. -/
def empty : Outcome := .result [] [] 0 .null

end Outcome

/-- The connection to the driver: what it will answer, what it was sent, and how many cursors were
opened and closed. -/
structure Connection where
  queue : List Outcome := []
  sent : List BoundSql := []
  opened : Nat := 0
  closed : Nat := 0

/-- A prepared statement and the result of its last successful execution. -/
structure Prepared where
  sql : String
  columns : List String := []
  rows : List (List Value) := []
  rowCount : Int := 0
  lastRowId : Value := .null

structure Database where
  name : String
  models : List (String × Model) := []
  /-- The numbers of its tables, by their names. -/
  tables : List (String × Nat) := []
  /-- The number of the statement that was prepared last. -/
  last : Option Nat := none
  /-- The server the database was opened at. -/
  server : Option Server := none
  /-- The connection of the database is open. -/
  isOpen : Bool := true

/-- What a record announces about itself. -/
inductive Event
  | beforeSaving
  | afterSaving (success : Bool)
  | beforeDeleting
  | afterDeleting (success : Bool)
  deriving DecidableEq, Repr

/-- The databases opened by server, and every attempt to open one. -/
structure Pool where
  cached : List (Server.Identity × Nat) := []
  attempts : List Server := []

structure World where
  connection : Connection := {}
  pool : Pool := {}
  databases : List Database := []
  statements : List Prepared := []
  rows : List Row := []
  /-- The primary keys discovered so far, by the numbers of their tables. -/
  primaryKeys : List (Nat × List Value) := []
  /-- The number the next table gets. -/
  nextTable : Nat := 0
  events : List Event := []

/-- Something done to the world that may fail. -/
abbrev Act (α : Type) := ExceptT Error (StateM World) α

namespace Act

def refuse {α : Type} (e : ArgumentError) : Act α := throw e.toError

def fail {α : Type} (f : Fault) : Act α := throw (.fault f)

/-- A result that needs nothing of the world. -/
def ofExcept {α : Type} (r : Except Error α) : Act α := ExceptT.mk (pure r)

def ofFault {α : Type} (r : Except Fault α) : Act α := ofExcept (r.mapError .fault)

end Act

namespace World

/-- A row by its number. -/
def row (id : Nat) : Act Row := do
  match (← get).rows[id]? with
  | some r => return r
  | none => Act.fail .index

def setRow (id : Nat) (r : Row) : Act Unit :=
  modify fun w => { w with rows := w.rows.set id r }

/-- A row that was not known before. -/
def addRow (r : Row) : Act Nat := do
  let w ← get
  set { w with rows := w.rows ++ [r] }
  return w.rows.length

def database (id : Nat) : Act Database := do
  match (← get).databases[id]? with
  | some d => return d
  | none => Act.fail .index

def setDatabase (id : Nat) (d : Database) : Act Unit :=
  modify fun w => { w with databases := w.databases.set id d }

def addDatabase (d : Database) : Act Nat := do
  let w ← get
  set { w with databases := w.databases ++ [d] }
  return w.databases.length

/-- A table that was not known before. A table's name is a text with a character at least. -/
def addTable (name : Value) (database : Option Nat) : Act Table := do
  match name with
  | .text s =>
    if s.isEmpty then Act.refuse (.tableName name)
    else
      let w ← get
      set { w with nextTable := w.nextTable + 1 }
      return { id := w.nextTable, name := s, database }
  | _ => Act.refuse (.tableName name)

def announce (e : Event) : Act Unit := modify fun w => { w with events := w.events ++ [e] }

end World

end RowQuery

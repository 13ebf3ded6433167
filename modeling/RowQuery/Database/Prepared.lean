import RowQuery.Database.World

/-!
Prepared statements. Each execution opens a cursor, sends the statement, reads the whole result and
closes the cursor; a failed one leaves the statement's result as it was, but for the columns of a
result whose rows could not be read.
-/

namespace RowQuery

/-- The values that a caller's arguments are spread into: the characters of a text, the keys of a
mapping, the items of a sequence, the members of a set. -/
def Value.spread? : Value → Option (List Value)
  | .list xs => some xs
  | .tuple xs => some xs
  | .text s => some (s.toList.map fun c => .text (String.ofList [c]))
  | .bytes bs => some (bs.map fun b => .int b.toNat)
  | .map es => some (es.map (·.1))
  | .set xs => some xs
  | _ => none

namespace Connection

def openCursor (c : Connection) : Connection := { c with opened := c.opened + 1 }

def closeCursor (c : Connection) : Connection := { c with closed := c.closed + 1 }

/-- Sends a statement; the answer is the next outcome of the queue. -/
def send (c : Connection) (b : BoundSql) : Outcome × Connection :=
  (c.queue.headD .empty, { c with queue := c.queue.tail, sent := c.sent ++ [b] })

end Connection

namespace Prepared

/-- The statement with a result that has just been read. -/
def receive (s : Prepared) (columns : List String) (rows : List (List Value)) (rowCount : Int)
    (lastRowId : Value) : Prepared :=
  { s with columns, rows := if columns.isEmpty then [] else rows, rowCount, lastRowId }

/-- The statement with the columns of a result whose rows could not be read, if there are any; all
else is left of the result before. -/
def interrupt (s : Prepared) (columns : List String) : Prepared :=
  { s with columns := if columns.isEmpty then s.columns else columns }

/-- The columns of one row; of columns of one name the last value counts. -/
def columnsOf (s : Prepared) (row : List Value) : List (String × Value) :=
  Keyed.ofList (s.columns.zip row)

/-- The rows of the result read into a model. -/
def readRows (s : Prepared) (model : Model) (table : Option Table) : Except Fault (List Row) :=
  s.rows.mapM fun row => Row.hydrate model (s.columnsOf row) table

/-- The rows of the result read into the model that a value names. -/
def readRowsAs (s : Prepared) (model : Value) (table : Option Table) : Except Fault (List Row) :=
  match model with
  | .model m => s.readRows m table
  | _ => if s.rows.isEmpty then .ok [] else .error .attribute

/-- A column of the first row, null when there are no rows; a negative number counts from the
last column. -/
def firstColumn (s : Prepared) (index : Int := 0) : Except Fault Value :=
  match s.rows with
  | [] => .ok .null
  | row :: _ =>
    let i := if index < 0 then index + row.length else index
    if i < 0 then .error .index
    else match row[i.toNat]? with
      | some v => .ok v
      | none => .error .index

end Prepared

namespace Statement

/-- A new statement, which becomes the one its database prepared last. -/
def prepare (database : Nat) (sql : String) : Act Nat := do
  let d ← World.database database
  let w ← get
  set { w with statements := w.statements ++ [({ sql := sql } : Prepared)] }
  World.setDatabase database { d with last := some w.statements.length }
  return w.statements.length

/-- A prepared statement by its number. -/
def get (id : Nat) : Act Prepared := do
  match (← MonadState.get).statements[id]? with
  | some s => return s
  | none => Act.fail .index

/-- A statement after an execution of it. -/
def keep (id : Nat) (s : Prepared) : Act Unit :=
  modify fun w => { w with statements := w.statements.set id s }

/-- Sends a statement on the cursor that is open, and reads the result. -/
def run (id : Nat) (arguments : Value) : Act Unit := do
  let s ← get id
  let args ← match if arguments.isTruthy then arguments.spread? else some [] with
    | some args => pure args
    | none => Act.fail .type
  let w ← MonadState.get
  let (outcome, connection) := w.connection.send ⟨s.sql, args⟩
  set { w with connection }
  match outcome with
  | .failure code text columns =>
    keep id (s.interrupt columns)
    throw (.database (.driver code text))
  | .result columns rows rowCount lastRowId => keep id (s.receive columns rows rowCount lastRowId)

/-- Executes a statement on a cursor of its own, which is closed whatever happens. -/
def execute (id : Nat) (arguments : Value) : Act Unit := ExceptT.mk do
  modify fun w => { w with connection := w.connection.openCursor }
  let outcome ← (run id arguments).run
  modify fun w => { w with connection := w.connection.closeCursor }
  return outcome

/-- Rows of a statement's result as rows of the world. -/
def fetchAll (id : Nat) (model : Value) (table : Option Table) : Act (List Nat) := do
  let s ← get id
  let rows ← Act.ofFault (s.readRowsAs model table)
  rows.mapM World.addRow

end Statement

end RowQuery

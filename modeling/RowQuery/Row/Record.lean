import RowQuery.Query.Query

/-!
Records. A record that is new is inserted when it is saved, and takes the number its table gave it;
any other is updated or deleted where its primary key has the values of the record.
-/

namespace RowQuery.Record

/-- A row on which a function is called. -/
def calling (id : Nat) (name : String) : Act Row := do
  let r ← World.row id
  Act.ofFault (r.checkCall name)
  return r

/-- What a record belongs to. -/
def owner (id : Nat) : Act Owner := do
  let r ← calling id "_require_table"
  match r.owner with
  | some o => return o
  | none => throw (.unbound r.model.name)

/-- The table of a record; a value in its place has no attributes of a table. -/
def tableOf (o : Owner) : Act Table :=
  match o with
  | .table t => return t
  | .value _ => Act.fail .attribute

/-- Whether a row is new; rows that are no records have this as a column or not at all. -/
def isNew (id : Nat) : Act Value := do
  Act.ofFault ((← World.row id).get (.text "is_new"))

def bind (id : Nat) (t : Table) : Act Unit := do
  let r ← calling id "bind"
  World.setRow id { r with owner := some (.table t) }

/-- The columns of the primary key with the values of the record, none when there is no key. -/
def primaryKeyValues (id : Nat) : Act (Option (List (String × Value))) := do
  let _ ← calling id "primary_key_values"
  let t ← tableOf (← owner id)
  let key ← t.primaryKey
  if key.isEmpty then return none
  let r ← World.row id
  let pairs ← Act.ofFault (key.mapM fun c =>
    match c with
    | .text name => (r.getD c .null).map fun v => (name, v)
    | _ => .error .type)
  return some (Keyed.ofList pairs)

/-- The conditions that pin a row to the values of its primary key. -/
def pinned (key : List (String × Value)) : Except ArgumentError Condition := do
  let leaves ← key.mapM fun c => Condition.ofText (Sql.quote c.1 ++ " = ?") [c.2]
  match leaves with
  | [leaf] => return leaf
  | leaves => return Condition.groupOf .and leaves

/-- A query for the record's own row. -/
def selfQuery (id : Nat) : Act Query := do
  let _ ← calling id "_self_query"
  let o ← owner id
  match ← primaryKeyValues id with
  | none => throw (.database (.noPrimaryKey (← tableOf o).name))
  | some key =>
    let c ← Act.ofExcept ((pinned key).mapError ArgumentError.toError)
    Act.ofExcept (Query.create (← tableOf o) [.condition c])

/-- Runs an act of a query that is not kept. -/
def runQuery {α : Type} (q : Query) (a : QueryAct α) : Act α := ExceptT.mk do
  let w ← get
  let (r, (_, w)) := a.run.run (q, w)
  set w
  return r

/-- Calls a hook, if the record's model has hooks. -/
def announce (id : Nat) (name : String) (e : Event) : Act Unit := do
  match (← World.row id).model.hooks with
  | .none => return
  | .silent =>
    let _ ← calling id name
  | .announced =>
    let _ ← calling id name
    World.announce e

/-- Inserts a new record. A single key column takes the number the database gave the row. -/
def insert (id : Nat) (t : Table) : Act Bool := do
  let key ← t.primaryKey
  let r ← World.row id
  let inserted ← t.insert (← Act.ofFault (r.dump r.givenColumns))
  let success := decide (0 < inserted)
  if success then
    match key with
    | [column] =>
      let number ← Database.lastInsertId (← t.databaseId)
      if number ≠ 0 then
        let r ← World.row id
        World.setRow id (← Act.ofFault (r.set column (.int number)))
    | _ => pure ()
  let r ← World.row id
  World.setRow id { r with isNew := .bool !success }
  return success

/-- Updates the row of a record that is not new. -/
def update (id : Nat) : Act Bool := do
  let q ← selfQuery id
  let r ← World.row id
  let values ← Act.ofFault r.asMapping
  return decide (0 < (← runQuery q (Query.update values)))

/-- Saves a record: inserts a new one and updates any other. Tells whether a row was written. -/
def save (id : Nat) : Act Bool := do
  let _ ← calling id "save"
  let o ← owner id
  announce id "before_saving" .beforeSaving
  let success ← if (← World.row id).isNew.isTruthy then insert id (← tableOf o) else update id
  announce id "after_saving" (.afterSaving success)
  return success

/-- Deletes the row of a record that is not new. Tells whether a row was deleted. -/
def delete (id : Nat) : Act Bool := do
  if (← calling id "delete").isNew.isTruthy then return false
  let q ← selfQuery id
  announce id "before_deleting" .beforeDeleting
  let success := decide (0 < (← runQuery q Query.delete))
  announce id "after_deleting" (.afterDeleting success)
  return success

end RowQuery.Record

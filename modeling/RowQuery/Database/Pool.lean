import RowQuery.Database.Basic

/-!
The pool of databases. A server that was connected to before gives the database opened then; only a
connection that was opened is kept.
-/

namespace RowQuery.Pool

/-- Asks the driver to open a connection; `refusal` is its code and message when it does not. -/
def openAt (s : Server) (refusal : Option (Int × String)) : Act Nat := do
  modify fun w => { w with pool := { w.pool with attempts := w.pool.attempts ++ [s] } }
  match refusal with
  | some (code, text) => throw (.database (.driver code text))
  | none =>
    let id ← World.addDatabase { name := s.database, server := some s }
    modify fun w =>
      { w with pool := { w.pool with cached := Keyed.put w.pool.cached s.identity id } }
    return id

/-- The database of a server, opened on first use, with further models registered. -/
def connect (s : Server) (models : Value) (refusal : Option (Int × String) := none) : Act Nat := do
  let id ← match Keyed.find? (← get).pool.cached s.identity with
    | some id => pure id
    | none => openAt s refusal
  if models.isTruthy then Database.registerModels id models
  return id

/-- Closes every database of the pool, the last one first, and forgets them. -/
def disconnectAll : Act Unit := do
  let cached := (← get).pool.cached
  modify fun w => { w with pool := { w.pool with cached := [] } }
  cached.reverse.forM fun entry => Database.close entry.2

end RowQuery.Pool

import RowQuery.Database.Pool
import RowQuery.Query.Query
import RowQuery.Registry.Registry
import RowQuery.Search.Request

/-!
The service answers requests for the entities of a registry. A request is checked against the
schema, its limit capped by the entity, and its query built on the entity's table; it is then
compiled only, run, or counted without paging.
-/

namespace RowQuery.Service

/-- Why a request is refused. -/
inductive Refusal
  /-- The service was given no database. -/
  | noDatabase
  | error (status : Nat) (cause : Error)

namespace Refusal

def status : Refusal → Nat
  | .noDatabase => 500
  | .error status _ => status

/-- The text a refusal comes with, none for a payload outside the schema. -/
def detail : Refusal → Option String
  | .noDatabase => some "TABLEQUERY_DATABASE_URL is not set"
  | .error _ (.unknownTable name) =>
    ((Error.unknownTable name).message).map Text.literal
  | .error _ cause => cause.message

end Refusal

inductive Response
  | body (value : Value)
  | refused (reason : Refusal)

/-- The status of an error that is the fault of the request or of the database; other errors are
not answered. -/
def statusOf? : Error → Option Nat
  | .unknownTable _ => some 404
  | .fault .schema => some 400
  | .argument _ => some 400
  | .clauses _ _ => some 400
  | .database _ => some 502
  | _ => none

/-- An act as a response. -/
def answer (a : Act Value) : Act Response :=
  tryCatch (do return .body (← a)) fun e =>
    match statusOf? e with
    | some status => return .refused (.error status e)
    | none => throw e

/-- A request, its entity and its query. -/
structure Prepared where
  request : Search.Request
  entry : Entry
  query : Query

/-- The options that a request asks for. -/
def apply (r : Search.Request) : Edit Unit := do
  Options.filterBy r.conditions []
  Options.groupBy r.grouping r.having
  Options.sortBy r.ordering (.text "ASC")
  Options.takeRows r.limit
  Options.skipRows r.offset

/-- Checks a payload and builds its query on the table that `tableFor` gives for a name. -/
def prepare (r : Registry) (tableFor : String → Act Table) (payload : Value) : Act Prepared := do
  let request ← Act.ofExcept (Search.Request.ofValue payload)
  let entry ← Act.ofExcept (r.entry (.text request.table))
  let limit ← Act.ofExcept (r.capLimit (.text request.table) request.limit)
  let request := { request with limit }
  let table ← tableFor entry.table
  match (apply request).run.run {} with
  | (.ok (), options) => return { request, entry, query := { table, options } }
  | (.error e, _) => throw e

/-- A mapping with text keys. -/
def fields (entries : List (String × Value)) : Value :=
  .map (entries.map fun e => (.text e.1, e.2))

/-- Compiles the statements of a request; nothing is sent. -/
def compile (r : Registry) (payload : Value) : Act Response := answer do
  let p ← prepare r (fun name => World.addTable (.text name) none) payload
  let select ← Act.ofExcept (p.query.toSql (.text "select") p.request.columns .null)
  let count ← Act.ofExcept (p.query.toSql (.text "count") .null .null)
  return fields [("sql", .text select.sql), ("params", .list select.args),
    ("countSql", .text count.sql), ("countParams", .list count.args),
    ("limitApplied", p.request.limit), ("mappedTable", .text p.entry.table)]

/-- Runs an act of a query that is not kept. -/
def runOn {α : Type} (q : Query) (a : QueryAct α) : Act α := ExceptT.mk do
  let w ← get
  let (r, (_, w)) := a.run.run (q, w)
  set w
  return r

/-- Fetches the rows of a request. -/
def search (r : Registry) (database : Nat) (payload : Value) : Act Response := answer do
  let p ← prepare r (fun name => Database.table database (.text name)) payload
  let select ← Act.ofExcept (p.query.toSql (.text "select") p.request.columns .null)
  let ids ← runOn p.query (Query.fetch p.request.columns)
  let rows ← ids.mapM World.row
  return fields [("rows", .list (rows.map Row.toValue)), ("count", .int rows.length),
    ("sql", .text select.sql), ("params", .list select.args),
    ("limitApplied", p.request.limit), ("mappedTable", .text p.entry.table)]

/-- The query of a count: paging is left out, so that every matching row counts. -/
def withoutPaging (q : Query) : Query :=
  { q with options := q.options.clear [.limit, .offset] }

/-- Counts the rows of a request. -/
def count (r : Registry) (database : Nat) (payload : Value) : Act Response := answer do
  let p ← prepare r (fun name => Database.table database (.text name)) payload
  let n ← runOn (withoutPaging p.query) Query.count
  return fields [("count", .int n), ("mappedTable", .text p.entry.table)]

/-- The service with its configuration and its state. -/
structure State where
  registry : Registry
  /-- The content of the mapping file, if there is one. -/
  file : Option String
  databaseUrl : String
  imports : Imports
  world : World := {}

abbrev Serving (α : Type) := ExceptT Error (StateM State) α

def onWorld {α : Type} (a : Act α) : Serving α := ExceptT.mk do
  let s ← get
  let (r, world) := a.run.run s.world
  set { s with world }
  return r

def load : Serving Unit := do
  let s ← get
  match s.registry.load s.file with
  | .ok registry => set { s with registry }
  | .error e => throw e

/-- The registry, loaded when it is not. -/
def getRegistry : Serving Registry := do
  if !(← get).registry.loaded then load
  return (← get).registry

/-- The database of the service with the models of the registry, none when it was given none. -/
def getDatabase (r : Registry) : Serving (Option Nat) := do
  let s ← get
  if s.databaseUrl.isEmpty then return none
  else onWorld do
    let server ← Act.ofExcept (Server.ofUrl (.text s.databaseUrl))
    let id ← Pool.connect server .null
    r.bind s.imports id
    return some id

/-- Loads the mapping file when there is one, and tells whether the registry is loaded. -/
def startup : Serving Response := do
  if (← get).file.isSome then load
  return .body (.bool (← get).registry.loaded)

def health : Serving Response := do
  let r ← getRegistry
  return .body (fields [("ok", .bool true), ("tables", .list r.names)])

def compiling (payload : Value) : Serving Response := do
  let r ← getRegistry
  onWorld (compile r payload)

/-- Answers a request that needs the database. -/
def withDatabase (handler : Registry → Nat → Act Response) : Serving Response := do
  let r ← getRegistry
  match ← getDatabase r with
  | none => return .refused .noDatabase
  | some id => onWorld (handler r id)

def searching (payload : Value) : Serving Response := withDatabase fun r id => search r id payload

def counting (payload : Value) : Serving Response := withDatabase fun r id => count r id payload

end RowQuery.Service

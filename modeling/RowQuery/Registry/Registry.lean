import RowQuery.Database.Basic
import RowQuery.Json.Reader
import RowQuery.Text.Path
import RowQuery.Yaml.Document

/-!
The registry of entities. A mapping file gives each entity a table, and maybe a model for its rows
and a cap on how many rows one request may take. Loading replaces all entries or none.
-/

namespace RowQuery

structure Entry where
  table : String
  model : Option String := none
  maxLimit : Option Int := none
  deriving DecidableEq, Repr

structure Registry where
  path : String
  maxLimit : Int
  entries : List (Value × Entry) := []
  loaded : Bool := false

/-- What stands under a name in a module, by the names of both. -/
abbrev Imports := (place name : String) → Except Fault Value

namespace Registry

/-- A registry that has not read its file yet. -/
def ofFile (path : String) (maxLimit : Int) : Registry :=
  { path := Text.normalizePath path, maxLimit }

/-- The number of rows of a request that asks for none in particular. -/
def defaultLimit : Int := 100

/-- The file is YAML by its ending. -/
def isYaml (path : String) : Bool :=
  let ending := Text.lower (Text.pathEnding path)
  ending == ".yaml" || ending == ".yml"

/-- Line ends of every kind as line feeds. -/
def unifyLines : List Char → List Char
  | '\r' :: '\n' :: cs => '\n' :: unifyLines cs
  | '\r' :: cs => '\n' :: unifyLines cs
  | c :: cs => c :: unifyLines cs
  | [] => []

/-- The content of a mapping file. An empty YAML file is an empty mapping. -/
def parse (path content : String) : Except Error Value :=
  let text := String.ofList (unifyLines content.toList)
  if isYaml path then
    (Yaml.read text).map fun v => if v.isTruthy then v else .map []
  else (Json.read text).mapError .fault

/-- The tables of a mapping file's content. -/
def tablesOf : Value → Except Error (List (Value × Value))
  | .map entries =>
    match (Value.field? entries "tables").getD .null with
    | .map tables => .ok tables
    | v => if v.isTruthy then failWith .attribute else .ok []
  | _ => failWith .attribute

/-- The entry of one entity. Without a table of its own it has the one of its name. -/
def readEntry (entity : Value) : Value → Except Error Entry
  | .null => do return { table := ← entity.written }
  | .map fields => do
    let table ← ((Value.field? fields "table").getD entity).written
    let model ← match Value.field? fields "model" with
      | none => pure none
      | some v => (v.written).map some
    let maxLimit ← match Value.field? fields "maxLimit" with
      | none => pure none
      | some v => (v.integer).map some
    return { table, model, maxLimit }
  | v =>
    if entity.isWritable && v.isWritable then .error (.mapping (.notAMapping entity v))
    else failWith .value

def readEntries : List (Value × Value) → Except Error (List (Value × Entry))
  | [] => .ok []
  | (k, v) :: rest => do
    let entry ← readEntry k v
    return (k, entry) :: (← readEntries rest)

/-- The registry with the entries of a file, where `file` is the content if there is such a file. -/
def load (r : Registry) (file : Option String) : Except Error Registry :=
  match file with
  | none => .error (.mapping (.fileMissing r.path))
  | some content => do
    let tables ← tablesOf (← parse r.path content)
    return { r with entries := ← readEntries tables, loaded := true }

def names (r : Registry) : List Value := Keyed.keys r.entries

/-- The entry of an entity. -/
def entry (r : Registry) (name : Value) : Except Error Entry :=
  if !name.isKey then failWith .type
  else match Keyed.find? r.entries name with
    | some e => .ok e
    | none => if name.isWritable then .error (.unknownTable name) else failWith .value

/-- A number is not greater than zero; other values cannot be compared with it. -/
def atMostZero : Value → Except Error Bool
  | .bool b => .ok !b
  | .int n => .ok (n ≤ 0)
  | .float x => .ok (x.lessInt 0 || x.sameInt 0)
  | _ => failWith .type

/-- The cap is less than a number. -/
def capBelow (cap : Int) : Value → Bool
  | .bool b => cap < (if b then 1 else 0)
  | .int n => cap < n
  | .float x => Double.intLess cap x
  | _ => false

/-- The number of rows a request may take: the one asked for, or the usual one, but not more than
the entity's cap. -/
def capLimit (r : Registry) (name limit : Value) : Except Error Value := do
  let e ← r.entry name
  let cap := e.maxLimit.getD r.maxLimit
  let unlimited ← if limit.isTruthy then atMostZero limit else .ok true
  if unlimited then return .int (min defaultLimit cap)
  else if capBelow cap limit then return .int cap
  else return limit

/-- The model that a path of the form `module:Class` names. -/
def importModel (imports : Imports) (path : String) : Except Error Model :=
  match Text.cutChars ':' path.toList with
  | (c :: place, some (d :: name)) =>
    if c = '.' then failWith .type
    else match imports (String.ofList (c :: place)) (String.ofList (d :: name)) with
      | .ok (.model m) => .ok m
      | .ok _ => .error (.mapping (.notAModel path))
      | .error f => .error (.fault f)
  | _ => .error (.mapping (.modelPath path))

/-- The models of the tables of some entries; of entries for one table the last counts. -/
def modelsOf (imports : Imports) : List (Value × Entry) → Except Error (List (String × Model))
  | [] => .ok []
  | (_, e) :: rest =>
    match e.model with
    | none => modelsOf imports rest
    | some path => do
      let m ← importModel imports path
      return (e.table, m) :: (← modelsOf imports rest)

def models (r : Registry) (imports : Imports) : Except Error (List (String × Model)) :=
  (modelsOf imports r.entries).map Keyed.ofList

/-- Registers the models of all entries with a database. -/
def bind (r : Registry) (imports : Imports) (database : Nat) : Act Unit := do
  match ← Act.ofExcept (r.models imports) with
  | [] => pure ()
  | ms => Database.registerModels database (.map (ms.map fun m => (.text m.1, .model m.2)))

end Registry

end RowQuery

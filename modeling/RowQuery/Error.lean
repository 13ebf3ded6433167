import RowQuery.Database.DriverError
import RowQuery.Sql.Clause
import RowQuery.Value.Integer
import RowQuery.Value.Literal

/-!
Errors by cause, and the message of each. Errors of arguments and clauses are found before any
statement runs; errors of the database come from the driver or from what it answered.
-/

namespace RowQuery

/-- What is wrong with an argument. -/
inductive ArgumentError
  | conditionType (type : String)
  | placeholderCount (sql : String) (placeholders args : Nat)
  | emptySequence (sql : String)
  | combinatorCount
  | unknownCombinator (name : Value)
  | emptyGroup
  | invalidCondition (value : Value)
  | argumentsAlone
  | extraArguments
  | conditionsType (type : String)
  | notACondition (value : Value)
  | columnName (value : Value)
  | groupingType (type : String)
  | sortItem (value : Value)
  | sortingType (type : String)
  | columnsType (type : String)
  | column (value : Value)
  | aliasName (value : Value)
  | noAssignments
  | count (what : String) (value : Value)
  | valueAlone
  | statementKind (value : Value)
  | tableName (value : Value)
  | notSavable (model : String)
  | modelsType
  | modelClass (table : String) (value : Value)
  | noUrl
  | urlScheme (scheme : String)
  | urlDatabase (url : String)

namespace ArgumentError

def message : ArgumentError → String
  | .conditionType type => "Condition must be a string, got " ++ type
  | .placeholderCount sql placeholders args =>
    "Condition " ++ Text.literal sql ++ " has " ++ toString placeholders ++
      " placeholder(s) but " ++ toString args ++ " argument(s)"
  | .emptySequence sql => "Empty list bound to condition " ++ Text.literal sql
  | .combinatorCount => "Combinator mappings must hold exactly one key"
  | .unknownCombinator name => "Unknown combinator: " ++ name.literal
  | .emptyGroup => "Empty condition group"
  | .invalidCondition value => "Invalid condition: " ++ value.literal
  | .argumentsAlone => "Arguments given without a condition"
  | .extraArguments => "Extra arguments are only accepted with a string condition"
  | .conditionsType type => "Invalid conditions: " ++ type
  | .notACondition value => "Not a filter node: " ++ value.literal
  | .columnName value => "Invalid column name: " ++ value.literal
  | .groupingType type => "Invalid grouping: " ++ type
  | .sortItem value => "Invalid sort item: " ++ value.literal
  | .sortingType type => "Invalid sorting: " ++ type
  | .columnsType type => "Invalid columns: " ++ type
  | .column value => "Invalid column: " ++ value.literal
  | .aliasName value => "Invalid alias: " ++ value.literal
  | .noAssignments => "Values must be a non-empty mapping of column -> value"
  | .count what value => what ++ " must be an integer or None, got " ++ value.literal
  | .valueAlone => "A single value needs a column name"
  | .statementKind value => "Unknown statement kind: " ++ value.literal
  | .tableName value => "Bad table name: " ++ value.literal
  | .notSavable model => model ++ " rows cannot be saved"
  | .modelsType => "Models must be a mapping of table name -> class"
  | .modelClass table value =>
    "Model for " ++ table ++ " must subclass Result: " ++ value.literal
  | .noUrl => "A database URL is required"
  | .urlScheme scheme => "Unsupported database URL scheme: " ++ Text.literal scheme
  | .urlDatabase url => "Database URL must name one database: " ++ Text.literal url

/-- The values whose literals are part of the message. -/
def shown : ArgumentError → List Value
  | .unknownCombinator v => [v]
  | .invalidCondition v => [v]
  | .notACondition v => [v]
  | .columnName v => [v]
  | .sortItem v => [v]
  | .column v => [v]
  | .aliasName v => [v]
  | .count _ v => [v]
  | .statementKind v => [v]
  | .tableName v => [v]
  | .modelClass _ v => [v]
  | _ => []

/-- The message can be written: it shows no integer of too many digits. -/
def isWritable (e : ArgumentError) : Bool := Value.allWritable e.shown

end ArgumentError

/-- What went wrong with a database. -/
inductive DatabaseError
  /-- The table of the query is part of no database. -/
  | detached
  | noInsertId
  /-- The driver refused, with its code and message. -/
  | driver (code : Int) (text : String)
  /-- The statement that reads the primary key failed. -/
  | primaryKeyUnknown (table : String) (reason : String)
  | noPrimaryKey (table : String)

namespace DatabaseError

def message : DatabaseError → String
  | .detached => "Query is not attached to a database"
  | .noInsertId => "Couldn't fetch the database's last insert ID."
  | .driver code text =>
    "[" ++ toString code ++ "] " ++ (DriverError.text? code text).getD text
  | .primaryKeyUnknown table reason =>
    "Couldn't discover the primary key of " ++ table ++ ": " ++ reason
  | .noPrimaryKey table => "Table " ++ table ++ " has no primary key"

end DatabaseError

/-- What is wrong with a table mapping. -/
inductive MappingError
  | fileMissing (path : String)
  | notAMapping (entity value : Value)
  | modelPath (path : String)
  | notAModel (path : String)

namespace MappingError

def message : MappingError → String
  | .fileMissing path => "Table mapping file not found: " ++ path
  | .notAMapping entity value =>
    "Bad table mapping for " ++ entity.display ++ ": " ++ value.display
  | .modelPath path => "Model path must look like 'package.module:Class': " ++ path
  | .notAModel path => "Model " ++ path ++ " is not a Result subclass"

end MappingError

/-- Failures that are known by their kind alone. -/
inductive Fault
  /-- A text or number has no value of the wanted type. -/
  | value
  /-- A value has the wrong type. -/
  | type
  /-- A value has no such attribute. -/
  | attribute
  /-- A sequence has no item of that number. -/
  | index
  | overflow
  /-- A value lies inside itself where its parts are needed. -/
  | recursion
  | endOfInput
  | moduleNotFound
  | json
  | yaml
  /-- A document does not match its schema. -/
  | schema
  /-- A row does not match its model. -/
  | row
  deriving DecidableEq, Repr

/-- The code and the text of a refusal; one without a code has the code -1. -/
def DriverError.complete (code : Option Int) (text : String) : Except Fault (Int × String) :=
  let code := match code with
    | none => -1
    | some n => if n = 0 then -1 else n
  match DriverError.text? code text with
  | some text => .ok (code, text)
  | none => .error .value

inductive Error
  | argument (e : ArgumentError)
  /-- The statement does not take clauses that the query holds. -/
  | clauses (operation : String) (keys : List Clause)
  | database (e : DatabaseError)
  /-- The row belongs to no table. -/
  | unbound (model : String)
  | mapping (e : MappingError)
  | unknownTable (name : Value)
  | missingSetting (key : String)
  /-- A word that should be a truth value is none. -/
  | unknownWord (word : String)
  | fault (f : Fault)

namespace Error

def message : Error → Option String
  | .argument e => some e.message
  | .clauses operation keys =>
    some ("Invalid clause combination for " ++ operation ++ ": " ++
      Text.join ", " (keys.map Clause.word))
  | .database e => some e.message
  | .unbound model => some (model ++ " is not bound to a table")
  | .mapping e => some e.message
  | .unknownTable name => some ("Unknown table: " ++ name.display)
  | .missingSetting key => some key
  | .unknownWord word => some word
  | .fault _ => none

end Error

instance : Inhabited Error := ⟨.fault .value⟩

def IntegerError.toError : IntegerError → Error
  | .malformed => .fault .value
  | .infinite => .fault .overflow
  | .wrongType => .fault .type

/-- The integer a value stands for, with the failure as an error. -/
def Value.integer (v : Value) : Except Error Int := v.toInteger.mapError IntegerError.toError

/-- The text of a value, unless it holds an integer of too many digits. -/
def Value.written (v : Value) : Except Error String :=
  if v.isWritable then .ok v.display else .error (.fault .value)

/-- The text of the integer a value stands for. -/
def Value.integerText (v : Value) : Except Error String := do (Value.int (← v.integer)).written

/-- The error of an argument. Where its message cannot be written, the attempt to write it fails
instead. -/
def ArgumentError.toError (e : ArgumentError) : Error :=
  if e.isWritable then .argument e else .fault .value

/-- Refuses an argument. -/
def refuse {α : Type} (e : ArgumentError) : Except Error α := .error e.toError

/-- Fails with a fault. -/
def failWith {α : Type} (f : Fault) : Except Error α := .error (.fault f)

end RowQuery

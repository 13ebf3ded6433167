import RowQuery.Number.Double
import RowQuery.Row.Model
import RowQuery.Value.Date

/-!
Values and conditions. A value is what a caller passes, a driver binds or a row holds; a condition
is a tree of texts with placeholders, and may itself be passed as a value.
-/

namespace RowQuery

/-- How a child of a group is joined to the ones before it. -/
inductive Combinator
  | and
  | or
  | xor
  deriving DecidableEq, Repr

/-- A table as a value, shown by its name. Tables of one name are told apart by their numbers. -/
structure TableReference where
  name : String
  id : Option Nat := none
  deriving DecidableEq, Repr

instance : Coe String TableReference := ⟨fun name => { name }⟩

instance : Coe TableReference String := ⟨TableReference.name⟩

mutual

inductive Value
  | null
  | bool (b : Bool)
  | int (n : Int)
  | float (x : Double)
  | text (s : String)
  | bytes (bs : List UInt8)
  | date (d : Date)
  | list (items : List Value)
  | tuple (items : List Value)
  | map (entries : List (Value × Value))
  /-- Members without order, in the order they are shown. -/
  | set (members : List Value)
  /-- A list or a mapping inside itself, in the place of its parts. -/
  | again (isMap : Bool)
  | condition (c : Condition)
  | model (m : Model)
  /-- A class that rows cannot be read into, known by its name. -/
  | otherClass (name : String)
  | table (t : TableReference)

inductive Condition
  /-- A text with one bound value per placeholder. -/
  | leaf (sql : String) (args : List Value)
  /-- Conditions in parentheses; the combinator of the first one is not written. -/
  | group (children : List (Combinator × Condition))
  /-- A value in the place of a condition. It is kept as it is and refused on compilation. -/
  | stray (value : Value)

end

instance : Inhabited Value := ⟨.null⟩

instance : Inhabited Condition := ⟨.stray .null⟩

namespace Value

def ofStrings (ss : List String) : Value := .list (ss.map .text)

/-- The items of a list or a tuple. -/
def items? : Value → Option (List Value)
  | .list xs => some xs
  | .tuple xs => some xs
  | _ => none

/-- Lists and tuples stand for several bound values. -/
def isSequence : Value → Bool
  | .list _ => true
  | .tuple _ => true
  | _ => false

/-- Nothing, false, zero and whatever is empty do not count as given. -/
def isTruthy : Value → Bool
  | .null => false
  | .bool b => b
  | .int n => n != 0
  | .float x => !x.isZero
  | .text s => !s.isEmpty
  | .bytes bs => !bs.isEmpty
  | .list xs => !xs.isEmpty
  | .tuple xs => !xs.isEmpty
  | .map es => !es.isEmpty
  | .set xs => !xs.isEmpty
  | _ => true

/-- The name of a value's type. -/
def typeName : Value → String
  | .null => "NoneType"
  | .bool _ => "bool"
  | .int _ => "int"
  | .float _ => "float"
  | .text _ => "str"
  | .bytes _ => "bytes"
  | .date d => if d.clock.isSome then "datetime" else "date"
  | .list _ => "list"
  | .tuple _ => "tuple"
  | .map _ => "dict"
  | .set _ => "set"
  | .again isMap => if isMap then "dict" else "list"
  | .condition (.leaf _ _) => "Leaf"
  | .condition (.group _) => "Group"
  | .condition (.stray v) => v.typeName
  | .model _ => "type"
  | .otherClass _ => "type"
  | .table _ => "Table"

end Value

end RowQuery

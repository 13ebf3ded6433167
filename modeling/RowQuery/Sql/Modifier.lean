import RowQuery.Error
import RowQuery.Keyed
import RowQuery.Sql.Identifier
import RowQuery.Text.Case

/-!
Grouping and ordering. Both list trimmed columns without repetition, in the order they first occur;
an ordering gives each the direction it was given last, and every direction but a descending one
is ascending.
-/

namespace RowQuery

inductive Direction
  | ascending
  | descending
  deriving DecidableEq, Repr

/-- The columns rows are grouped by. -/
abbrev Grouping := List String

/-- The columns rows are ordered by, each with its direction. -/
abbrev Ordering := List (String × Direction)

namespace Direction

def word : Direction → String
  | .ascending => "ASC"
  | .descending => "DESC"

/-- The direction a value names, in any letter case and with blanks around it. -/
def read : Value → Direction
  | .text s => if Text.upper (Text.trim s) = "DESC" then .descending else .ascending
  | _ => .ascending

end Direction

/-- A column's name, trimmed; a blank one is refused. -/
def readColumn : Value → Except ArgumentError String
  | .text s =>
    let name := Text.trim s
    if name.isEmpty then .error (.columnName (.text s)) else .ok name
  | v => .error (.columnName v)

namespace Grouping

/-- The columns without repetition, in the order they first occur. -/
def ofColumns (columns : List String) : Grouping :=
  Keyed.keys (Keyed.ofList (columns.map fun c => (c, ())))

/-- The grouping a value spells: one column, or a sequence of them; none when the value is empty. -/
def read : Value → Except ArgumentError (Option Grouping)
  | .null => .ok none
  | .text s => if s.isEmpty then .ok none else (readColumn (.text s)).map fun c => some [c]
  | .list [] => .ok none
  | .tuple [] => .ok none
  | .list items => (items.mapM readColumn).map fun cs => some (ofColumns cs)
  | .tuple items => (items.mapM readColumn).map fun cs => some (ofColumns cs)
  | v => .error (.groupingType v.typeName)

def sql (keyword : String) (g : Grouping) : String :=
  keyword ++ " " ++ Text.join ", " (g.map Sql.quoteDotted)

end Grouping

namespace Ordering

/-- The columns in the order they first occur, each with its last direction. -/
def ofPairs (pairs : List (String × Direction)) : Ordering := Keyed.ofList pairs

/-- A column and its direction from a pair of values. -/
def readPair (column direction : Value) : Except ArgumentError (String × Direction) :=
  (readColumn column).map fun c => (c, Direction.read direction)

/-- A column, or a pair of a column and a direction. -/
def readItem : Value → Except ArgumentError (String × Direction)
  | .text s => (readColumn (.text s)).map fun c => (c, .ascending)
  | .list [column, direction] => readPair column direction
  | .tuple [column, direction] => readPair column direction
  | v => .error (.sortItem v)

/-- The ordering a value spells: one column with the direction given beside it, a mapping from
columns to directions, or a sequence of items; none when the value is empty. -/
def read (key direction : Value) : Except ArgumentError (Option Ordering) :=
  match key with
  | .null => .ok none
  | .text s => if s.isEmpty then .ok none
    else (readPair (.text s) direction).map fun p => some [p]
  | .list [] => .ok none
  | .tuple [] => .ok none
  | .map [] => .ok none
  | .map entries =>
    (entries.mapM fun e => readPair e.1 e.2).map fun ps => some (ofPairs ps)
  | .list items => (items.mapM readItem).map fun ps => some (ofPairs ps)
  | .tuple items => (items.mapM readItem).map fun ps => some (ofPairs ps)
  | v => .error (.sortingType v.typeName)

def sql (keyword : String) (o : Ordering) : String :=
  keyword ++ " " ++ Text.join ", " (o.map fun p => Sql.quoteDotted p.1 ++ " " ++ p.2.word)

end Ordering

end RowQuery

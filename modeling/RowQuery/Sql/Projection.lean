import RowQuery.Error
import RowQuery.Sql.Identifier

/-!
The columns of a statement: the list of what is selected, and the assignments of what is written.
-/

namespace RowQuery.Sql

/-- A requested column or expression, without its alias. -/
def projectionItem : Value → Except ArgumentError String
  | .text s =>
    let item := Text.trim s
    if item.isEmpty then .error (.column (.text s))
    else if item = "*" then .ok item
    else if isPlain item then .ok (quote item)
    else .ok ("( " ++ item ++ " )")
  | v => .error (.column v)

/-- A requested column under the alias that a mapping gives it; no alias for a missing one. -/
def aliasedItem (name item : Value) : Except ArgumentError String := do
  let column ← projectionItem item
  match name with
  | .null => return column
  | .text s => if s.isEmpty then .error (.aliasName name) else return column ++ " AS " ++ quote s
  | _ => .error (.aliasName name)

/-- The items in the list of what is selected; everything when there are none. -/
def projectionOf (items : List String) : String :=
  if items.isEmpty then "*" else Text.join ", " items

/-- What a value selects: one column, a sequence of columns, or a mapping from aliases. -/
def projection : Value → Except ArgumentError String
  | .null => .ok "*"
  | .text s => (projectionItem (.text s)).map fun item => projectionOf [item]
  | .map entries => (entries.mapM fun e => aliasedItem e.1 e.2).map projectionOf
  | .list items => (items.mapM projectionItem).map projectionOf
  | .tuple items => (items.mapM projectionItem).map projectionOf
  | v => .error (.columnsType v.typeName)

/-- The name of a column that is assigned. -/
def assignedColumn : Value → Except ArgumentError String
  | .text s => if s.isEmpty then .error (.columnName (.text s)) else .ok s
  | v => .error (.columnName v)

/-- Assignments to the columns of a non-empty mapping, and the values assigned. -/
def assignments : Value → Except ArgumentError (String × List Value)
  | .map [] => .error .noAssignments
  | .map entries => do
    let columns ← entries.mapM fun e => assignedColumn e.1
    return (Text.join ", " (columns.map fun c => quote c ++ " = ?"), entries.map (·.2))
  | _ => .error .noAssignments

end RowQuery.Sql

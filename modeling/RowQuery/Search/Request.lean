import RowQuery.Json.Reader
import RowQuery.Search.Schema

/-!
Search requests: a query described as JSON. A request names a table and holds the options of a
query as they were written, null for the missing ones.
-/

namespace RowQuery.Search

structure Request where
  table : String
  columns : Value
  conditions : Value
  grouping : Value
  having : Value
  ordering : Value
  limit : Value
  offset : Value

namespace Request

/-- What an object has for the table, the empty text when it has nothing. -/
def tableOf (entries : List (Value × Value)) : Value :=
  (Value.field? entries "table").getD (.text "")

/-- The request of an object's fields; further fields are left aside. -/
def ofFields (entries : List (Value × Value)) : Request :=
  let field := fun key => (Value.field? entries key).getD .null
  { table := (tableOf entries).display
    columns := field "columns"
    conditions := field "conditions"
    grouping := field "group"
    having := field "having"
    ordering := field "sort"
    limit := field "limit"
    offset := field "offset" }

/-- All fields of a request, null for the missing ones. -/
def toFields (r : Request) : List (Value × Value) :=
  [(.text "table", .text r.table), (.text "columns", r.columns),
    (.text "conditions", r.conditions), (.text "group", r.grouping), (.text "having", r.having),
    (.text "sort", r.ordering), (.text "limit", r.limit), (.text "offset", r.offset)]

/-- The request a value describes: a text is read as JSON first. -/
def ofValue (payload : Value) (validate : Bool := true) : Except Error Request := do
  let data ← match payload with
    | .text s => (Json.read s).mapError .fault
    | v => .ok v
  if validate && !Schema.accepts data then failWith (Schema.refusal data)
  match data with
  | .map entries => if (tableOf entries).isWritable then .ok (ofFields entries) else failWith .value
  | _ => failWith .attribute

end Request

end RowQuery.Search

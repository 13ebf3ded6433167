import RowQuery.Condition.Spelling
import RowQuery.Query.Options

/-!
Configuring a query. Each call reads its arguments and sets one clause or clears it; grouping comes
with its conditions, and both are cleared together.
-/

namespace RowQuery

/-- A change of options that may fail. -/
abbrev Edit (α : Type) := ExceptT Error (StateM Options) α

namespace Options

/-- What a reader of arguments finds, as part of an edit. -/
def reading {α : Type} (r : Except ArgumentError α) : Edit α :=
  ExceptT.mk (pure (r.mapError ArgumentError.toError))

/-- Sets the conditions that rows satisfy, or clears them. -/
def filterBy (value : Value) (args : List Value) : Edit Unit := do
  let c ← reading (Condition.ofArguments value args)
  modify fun o => { o with condition := c }

/-- Sets the grouping, and its conditions when there are any; an empty grouping clears both. -/
def groupBy (key having : Value) : Edit Unit := do
  match ← reading (Grouping.read key) with
  | none => modify fun o => { o with grouping := none, having := none }
  | some g =>
    modify fun o => { o with grouping := some g }
    match having with
    | .null => pure ()
    | v =>
      let c ← reading (Condition.ofArguments v [])
      modify fun o => { o with having := c }

/-- Sets the ordering, or clears it. -/
def sortBy (key direction : Value) : Edit Unit := do
  let g ← reading (Ordering.read key direction)
  modify fun o => { o with ordering := g }

/-- A count of rows. Nothing, zero and negative numbers stand for no count. -/
def readCount (what : String) : Value → Except ArgumentError (Option Value)
  | .null => .ok none
  | .int n => .ok (if 0 < n then some (.int n) else none)
  | v => .error (.count what v)

/-- Sets the number of rows taken, or clears it. -/
def takeRows (value : Value) : Edit Unit := do
  let n ← reading (readCount "limit" value)
  modify fun o => { o with limit := n }

/-- Sets the number of rows skipped, or clears it. -/
def skipRows (value : Value) : Edit Unit := do
  let n ← reading (readCount "offset" value)
  modify fun o => { o with offset := n }

end Options

end RowQuery

import RowQuery.Error
import RowQuery.Sql.Placeholder

/-!
Building conditions. A leaf is made only when its text has one placeholder per value and no value
is an empty sequence; groups are built child by child.
-/

namespace RowQuery

namespace Condition

/-- A text and its values as a leaf, or what is wrong with them. -/
def ofText (sql : String) (args : List Value) : Except ArgumentError Condition :=
  let count := (Sql.placeholders sql).length
  if count ≠ args.length then .error (.placeholderCount sql count args.length)
  else if args.any fun v => v.items? matches some [] then .error (.emptySequence sql)
  else .ok (.leaf sql args)

/-- A value used as a text and its values. -/
def ofValue (sql : Value) (args : List Value) : Except ArgumentError Condition :=
  match sql with
  | .text s => ofText s args
  | v => .error (.conditionType v.typeName)

/-- A group of conditions that are all joined in one way. -/
def groupOf (combinator : Combinator) (nodes : List Condition) : Condition :=
  .group (nodes.map fun c => (combinator, c))

/-- The children of a group; a condition that is none has no children. -/
def children : Condition → List (Combinator × Condition)
  | .group cs => cs
  | _ => []

/-- A group with one more child. -/
def add (group : Condition) (combinator : Combinator) (node : Condition) : Condition :=
  .group (group.children ++ [(combinator, node)])

end Condition

/-- A value in the place of a condition. -/
def Value.toCondition : Value → Condition
  | .condition c => c
  | v => .stray v

/-- A condition as a value. -/
def Condition.toValue : Condition → Value
  | .stray v => v
  | c => .condition c

end RowQuery

import RowQuery.Condition.Basic
import RowQuery.Text.Case

/-!
Conditions spelled as nested values. A text, or a sequence that starts with one, is a leaf; any
other sequence is a group, whose items may be joined by a pair of a combinator's name and a
condition or by a mapping from the name to the condition.
-/

namespace RowQuery

/-- The combinator of a name, in any letter case and with blanks around it. -/
def Combinator.ofName? : Value → Option Combinator
  | .text s =>
    let name := Text.lower (Text.trim s)
    if name = "and" then some .and
    else if name = "or" then some .or
    else if name = "xor" then some .xor
    else none
  | _ => none

namespace Condition

/-- The condition of a sequence: a leaf when it starts with a text, and else the group of its
items, which the second argument gives. -/
def ofItems (items : List Value)
    (children : Except ArgumentError (List (Combinator × Condition))) :
    Except ArgumentError Condition :=
  match items with
  | [] => .error .emptyGroup
  | .text s :: args => ofText s args
  | _ => children.map .group

mutual

/-- The condition a value spells. -/
def read : Value → Except ArgumentError Condition
  | .condition (.leaf sql args) => .ok (.leaf sql args)
  | .condition (.group cs) => .ok (.group cs)
  | .text s => ofText s []
  | .list items => ofItems items (readChildren items)
  | .tuple items => ofItems items (readChildren items)
  | v => .error (.invalidCondition v)
termination_by structural v => v

/-- The children that the items of a group spell, up to the first that spells none. -/
def readChildren : List Value → Except ArgumentError (List (Combinator × Condition))
  | [] => .ok []
  | item :: items => do
    let whole := fun (_ : Unit) => (read item).map fun n => (Combinator.and, n)
    let child ← (match item with
      | .map [(name, node)] =>
        match Combinator.ofName? name with
        | some c => (read node).map fun n => (c, n)
        | none => .error (.unknownCombinator name)
      | .map _ => .error .combinatorCount
      | .list [name, node] =>
        match Combinator.ofName? name with
        | some c => (read node).map fun n => (c, n)
        | none => whole ()
      | .tuple [name, node] =>
        match Combinator.ofName? name with
        | some c => (read node).map fun n => (c, n)
        | none => whole ()
      | _ => whole ())
    return child :: (← readChildren items)
termination_by structural items => items

end

/-- The condition that a caller's value and arguments spell, none when the value clears it. -/
def ofArguments (value : Value) (args : List Value) : Except ArgumentError (Option Condition) :=
  match value with
  | .null => if args.isEmpty then .ok none else .error .argumentsAlone
  | .text s => if s.isEmpty && args.isEmpty then .ok none else (ofText s args).map some
  | v =>
    if !args.isEmpty then .error .extraArguments
    else match v with
      | .condition (.leaf sql args) => .ok (some (.leaf sql args))
      | .condition (.group cs) => .ok (some (.group cs))
      | .list [] => .ok none
      | .tuple [] => .ok none
      | .list items => (read (.list items)).map some
      | .tuple items => (read (.tuple items)).map some
      | v => .error (.conditionsType v.typeName)

end Condition

end RowQuery

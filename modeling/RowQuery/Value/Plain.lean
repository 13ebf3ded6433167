import RowQuery.Value.Literal

/-!
Values as plain data: a condition inside a value becomes a mapping of its parts, and all other
values are kept. Keys of mappings are kept as they are.
-/

namespace RowQuery

mutual

/-- A value without conditions. -/
def Value.plain : Value → Value
  | .list xs => .list (Value.plainItems xs)
  | .tuple xs => .tuple (Value.plainItems xs)
  | .map es => .map (Value.plainEntries es)
  | .condition c => c.plain
  | v => v
termination_by structural v => v

/-- The items of a list without conditions. -/
def Value.plainItems : List Value → List Value
  | [] => []
  | x :: xs => x.plain :: Value.plainItems xs
termination_by structural xs => xs

/-- The entries of a mapping, the values without conditions. -/
def Value.plainEntries : List (Value × Value) → List (Value × Value)
  | [] => []
  | (k, v) :: es => (k, v.plain) :: Value.plainEntries es
termination_by structural es => es

/-- A condition as a mapping of its parts. -/
def Condition.plain : Condition → Value
  | .leaf sql args =>
    .map [(.text "sql", .text sql), (.text "args", .tuple (Value.plainItems args))]
  | .group cs => .map [(.text "children", .tuple (Condition.plainChildren cs))]
  | .stray v => v.plain
termination_by structural c => c

/-- The children of a group as pairs of the combinator's word and a mapping. -/
def Condition.plainChildren : List (Combinator × Condition) → List Value
  | [] => []
  | (a, c) :: cs => .tuple [.text a.word, c.plain] :: Condition.plainChildren cs
termination_by structural cs => cs

end

end RowQuery

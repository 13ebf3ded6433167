import RowQuery.Condition.Basic

/-!
Conditions as SQL. A leaf is its text with every placeholder of a sequence spread into one per item;
a group is its children in parentheses. The values of a condition are listed in the order of their
placeholders.
-/

namespace RowQuery

/-- A piece of SQL and the values of its placeholders. -/
structure BoundSql where
  sql : String
  args : List Value

namespace Condition

/-- The text between neighbours in a group. -/
def joiner : Combinator → String
  | .and => " && "
  | .or => " || "
  | .xor => " XOR "

/-- One placeholder per item, in parentheses. -/
def marks (n : Nat) : List Char :=
  '(' :: List.intercalate [','] (List.replicate n ['?']) ++ [')']

/-- The text from offset `last` on, with the placeholders of sequences spread. -/
def spread (text : List Char) (last : Nat) : List (Nat × Value) → List Char
  | [] => text.drop last
  | (at_, value) :: rest =>
    match value.items? with
    | some items =>
      (text.take at_).drop last ++ marks items.length ++ spread text (at_ + 1) rest
    | none => spread text last rest

/-- The bound values a value stands for. -/
def bound (value : Value) : List Value := value.items?.getD [value]

/-- A leaf as SQL. -/
def renderLeaf (sql : String) (args : List Value) : BoundSql :=
  { sql := String.ofList (spread sql.toList 0 ((Sql.placeholders sql).zip args))
    args := (args.take (Sql.placeholders sql).length).flatMap bound }

mutual

/-- A condition as SQL. -/
def render : Condition → Except ArgumentError BoundSql
  | .leaf sql args => .ok (renderLeaf sql args)
  | .group cs => do
    let inner ← renderChildren true cs
    return { sql := "( " ++ inner.sql ++ " )", args := inner.args }
  | .stray v => .error (.notACondition v)
termination_by structural c => c

/-- Children one after another; the combinator of the first one of a group is not written. -/
def renderChildren (first : Bool) :
    List (Combinator × Condition) → Except ArgumentError BoundSql
  | [] => .ok ⟨"", []⟩
  | (combinator, c) :: cs => do
    let head ← render c
    let tail ← renderChildren false cs
    let lead := if first then "" else joiner combinator
    return { sql := lead ++ head.sql ++ tail.sql, args := head.args ++ tail.args }
termination_by structural cs => cs

end

/-- A condition as the clause that a keyword opens. -/
def clause (keyword : String) (c : Condition) : Except ArgumentError BoundSql := do
  let inner ← c.render
  return { sql := keyword ++ " " ++ inner.sql, args := inner.args }

end Condition

end RowQuery

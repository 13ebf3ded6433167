/-!
The clauses a query can hold, in the order a statement writes them, and the ones each kind of
statement takes.
-/

namespace RowQuery

inductive Clause
  | condition
  | grouping
  | having
  | ordering
  | limit
  | offset
  deriving DecidableEq, Repr

namespace Clause

def all : List Clause := [.condition, .grouping, .having, .ordering, .limit, .offset]

def word : Clause → String
  | .condition => "where"
  | .grouping => "group"
  | .having => "having"
  | .ordering => "order"
  | .limit => "limit"
  | .offset => "offset"

def ofWord? (s : String) : Option Clause := all.find? fun c => c.word == s

/-- Clauses of statements that read rows. -/
def reading : List Clause := all

/-- Clauses of statements that change rows. -/
def writing : List Clause := [.condition, .ordering, .limit, .offset]

theorem ofWord?_word (c : Clause) : ofWord? c.word = some c := by cases c <;> rfl

end Clause

end RowQuery

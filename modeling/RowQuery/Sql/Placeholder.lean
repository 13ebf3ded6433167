/-!
Placeholders of SQL texts. A question mark outside quotes is a placeholder. Inside single or double
quotes a backslash escapes the next character, and in any quoted segment a doubled quote stands for
the quote itself.
-/

namespace RowQuery.Sql

def backtick : Char := '\x60'

def backslash : Char := '\x5c'

/-- The characters that open a quoted segment. -/
def isQuote (c : Char) : Bool := c == '\x27' || c == '\x22' || c == backtick

/-- The offsets of the placeholders in the text from offset `i` on, where `quote` is the quote of
the segment the text starts in. -/
def placeholdersFrom : (quote : Option Char) → (i : Nat) → List Char → List Nat
  | _, _, [] => []
  | none, i, c :: cs =>
    if isQuote c then placeholdersFrom (some c) (i + 1) cs
    else if c = '?' then i :: placeholdersFrom none (i + 1) cs
    else placeholdersFrom none (i + 1) cs
  | some q, i, c :: cs =>
    if c = backslash ∧ q ≠ backtick then
      match cs with
      | [] => []
      | _ :: rest => placeholdersFrom (some q) (i + 2) rest
    else if c = q then
      match cs with
      | [] => []
      | d :: rest =>
        if d = q then placeholdersFrom (some q) (i + 2) rest
        else placeholdersFrom none (i + 1) (d :: rest)
    else placeholdersFrom (some q) (i + 1) cs

/-- The offsets of the placeholders of a text, in increasing order. -/
def placeholders (sql : String) : List Nat := placeholdersFrom none 0 sql.toList

/-- Where a reader of one character at a time stands. -/
inductive Quoting
  | outside
  | inside (quote : Char)
  /-- After a backslash in a segment of this quote. -/
  | escaped (quote : Char)
  deriving DecidableEq, Repr

namespace Quoting

def step : Quoting → Char → Quoting
  | .outside, c => if isQuote c then .inside c else .outside
  | .inside q, c =>
    if c = backslash ∧ q ≠ backtick then .escaped q else if c = q then .outside else .inside q
  | .escaped q, _ => .inside q

/-- Where the reader stands after a text. -/
def run (s : Quoting) (cs : List Char) : Quoting := cs.foldl step s

@[simp] theorem run_nil (s : Quoting) : s.run [] = s := rfl

@[simp] theorem run_cons (s : Quoting) (c : Char) (cs : List Char) :
    s.run (c :: cs) = (s.step c).run cs := rfl

@[simp] theorem run_append (s : Quoting) (cs ds : List Char) :
    s.run (cs ++ ds) = (s.run cs).run ds := List.foldl_append

end Quoting

end RowQuery.Sql

import RowQuery.Number.Shortest
import RowQuery.Text.Printable
import RowQuery.Text.Percent
import RowQuery.Text.Split
import RowQuery.Value.Integer

/-!
Literals: the texts of values in messages. A text is quoted with single quotes unless it holds one
and no double quote; the quote, the backslash and whatever has no printed form are escaped. The
display text of a text is the text itself, and of any other value its literal. Integers of too many
digits are not written at all.
-/

namespace RowQuery

namespace Text

def singleQuote : Char := '\x27'

def doubleQuote : Char := '\x22'

def backslash : Char := '\x5c'

/-- The last `width` hexadecimal digits of `n`. -/
def hexDigits (width n : Nat) : List Char :=
  let digits := Nat.toDigits 16 n
  List.replicate (width - digits.length) '0' ++ digits

/-- The quote a literal of these characters is written in. -/
def quoteFor (cs : List Char) : Char :=
  if cs.contains singleQuote && !cs.contains doubleQuote then doubleQuote else singleQuote

/-- A character inside a literal written in `quote`. -/
def literalChar (quote c : Char) : List Char :=
  if c = quote ∨ c = backslash then [backslash, c]
  else if c = '\n' then [backslash, 'n']
  else if c = '\r' then [backslash, 'r']
  else if c = '\t' then [backslash, 't']
  else if isPrintable c then [c]
  else if c.toNat < 0x100 then backslash :: 'x' :: hexDigits 2 c.toNat
  else if c.toNat < 0x10000 then backslash :: 'u' :: hexDigits 4 c.toNat
  else backslash :: 'U' :: hexDigits 8 c.toNat

/-- The literal of a text. -/
def literal (s : String) : String :=
  let quote := quoteFor s.toList
  String.ofList (quote :: (s.toList.flatMap (literalChar quote) ++ [quote]))

/-- A byte inside a literal; bytes above 126 have no printed form. -/
def literalByte (quote : Char) (b : UInt8) : List Char :=
  if b.toNat < 127 then literalChar quote (Char.ofNat b.toNat)
  else backslash :: 'x' :: hexDigits 2 b.toNat

/-- The literal of a sequence of bytes. -/
def literalBytes (bs : List UInt8) : String :=
  let quote := quoteFor (bs.map fun b => Char.ofNat b.toNat)
  String.ofList ('b' :: quote :: (bs.flatMap (literalByte quote) ++ [quote]))

end Text

/-- The word for a combinator. -/
def Combinator.word : Combinator → String
  | .and => "and"
  | .or => "or"
  | .xor => "xor"

/-- The literal of a combinator. -/
def Combinator.literal (c : Combinator) : String :=
  "<Combinator." ++ (match c with | .and => "AND" | .or => "OR" | .xor => "XOR") ++ ": " ++
    Text.literal c.word ++ ">"

/-- The literal of a tuple from those of its items; a single item is followed by a comma. -/
def tupleLiteral : List String → String
  | [s] => "(" ++ s ++ ",)"
  | ss => "(" ++ Text.join ", " ss ++ ")"

mutual

/-- The literal of a value. -/
def Value.literal : Value → String
  | .null => "None"
  | .bool b => if b then "True" else "False"
  | .int n => toString n
  | .float x => x.text
  | .text s => Text.literal s
  | .bytes bs => Text.literalBytes bs
  | .date d => d.literal
  | .list xs => "[" ++ Text.join ", " (Value.literals xs) ++ "]"
  | .tuple xs => tupleLiteral (Value.literals xs)
  | .map es => "\x7b" ++ Text.join ", " (Value.entryLiterals es) ++ "\x7d"
  | .set [] => "set()"
  | .set xs => "\x7b" ++ Text.join ", " (Value.literals xs) ++ "\x7d"
  | .again isMap => if isMap then "\x7b...\x7d" else "[...]"
  | .condition c => c.literal
  | .model m => "<class " ++ Text.literal m.name ++ ">"
  | .otherClass name => "<class " ++ Text.literal name ++ ">"
  | .table t => "<Table " ++ Text.literal t.name ++ ">"
termination_by structural v => v

/-- The literals of the items of a list. -/
def Value.literals : List Value → List String
  | [] => []
  | x :: xs => x.literal :: Value.literals xs
termination_by structural xs => xs

/-- The literals of the entries of a mapping. -/
def Value.entryLiterals : List (Value × Value) → List String
  | [] => []
  | (k, v) :: es => (k.literal ++ ": " ++ v.literal) :: Value.entryLiterals es
termination_by structural es => es

/-- The literal of a condition. -/
def Condition.literal : Condition → String
  | .leaf sql args =>
    "Leaf(sql=" ++ Text.literal sql ++ ", args=" ++ tupleLiteral (Value.literals args) ++ ")"
  | .group cs => "Group(children=" ++ tupleLiteral (Condition.childLiterals cs) ++ ")"
  | .stray v => v.literal
termination_by structural c => c

/-- The literals of the children of a group. -/
def Condition.childLiterals : List (Combinator × Condition) → List String
  | [] => []
  | (a, c) :: cs => tupleLiteral [a.literal, c.literal] :: Condition.childLiterals cs
termination_by structural cs => cs

end

mutual

/-- No integer in a value has more digits than are written. -/
def Value.isWritable : Value → Bool
  | .int n => decide (n.natAbs < Nat.pow 10 Text.maxDigits)
  | .list xs => Value.allWritable xs
  | .tuple xs => Value.allWritable xs
  | .set xs => Value.allWritable xs
  | .map es => Value.allEntriesWritable es
  | .condition c => c.isWritable
  | _ => true
termination_by structural v => v

/-- All items of a list are written. -/
def Value.allWritable : List Value → Bool
  | [] => true
  | x :: xs => x.isWritable && Value.allWritable xs
termination_by structural xs => xs

/-- All keys and values of a mapping are written. -/
def Value.allEntriesWritable : List (Value × Value) → Bool
  | [] => true
  | (k, v) :: es => k.isWritable && v.isWritable && Value.allEntriesWritable es
termination_by structural es => es

/-- All values of a condition are written. -/
def Condition.isWritable : Condition → Bool
  | .leaf _ args => Value.allWritable args
  | .group cs => Condition.allWritable cs
  | .stray v => v.isWritable
termination_by structural c => c

/-- All values of the children of a group are written. -/
def Condition.allWritable : List (Combinator × Condition) → Bool
  | [] => true
  | (_, c) :: cs => c.isWritable && Condition.allWritable cs
termination_by structural cs => cs

end

/-- The text of a value where it is written out for a reader. -/
def Value.display : Value → String
  | .text s => s
  | .date d => d.display
  | v => v.literal

end RowQuery

import RowQuery.Sql.Placeholder
import RowQuery.Text.Blank
import RowQuery.Text.Split
import RowQuery.Text.Word

/-!
Identifiers in SQL texts. A quoted identifier stands between backticks, with every backtick inside
it doubled; a dotted one is quoted part by part, each part trimmed.
-/

namespace RowQuery.Sql

/-- A text with every backtick doubled. -/
def double : List Char → List Char
  | [] => []
  | c :: cs => if c = backtick then backtick :: backtick :: double cs else c :: double cs

/-- An identifier between backticks. -/
def quoteChars (cs : List Char) : List Char := backtick :: (double cs ++ [backtick])

def quote (name : String) : String := String.ofList (quoteChars name.toList)

/-- A dotted identifier, each part between backticks. -/
def quoteDotted (name : String) : String :=
  Text.join "." ((Text.split '.' name).map fun part => quote (Text.trim part))

/-- Characters of identifiers that need no quotes. -/
def isPlainChar (c : Char) : Bool := Text.isWord c || c == '$'

/-- A text that is an identifier as it stands. -/
def isPlain (s : String) : Bool := !s.isEmpty && s.toList.all isPlainChar

end RowQuery.Sql

import RowQuery.Sql.Identifier
import RowQuery.Text.Case

/-!
The main table of a statement: the name after the first `FROM` or `JOIN` that starts a word and is
followed by blanks and a name, with a backtick before the name or not. Keywords are found in any
letter case, and also inside quoted segments.
-/

namespace RowQuery.Sql

/-- A character is a form of a small ASCII letter; the letter i has two forms more. -/
def isFormOf (letter c : Char) : Bool :=
  c.toLower == letter || (letter == 'i' && (c == '\u0130' || c == '\u0131'))

/-- The rest of a text after a keyword in any letter case. -/
def afterKeyword? : (keyword : List Char) → List Char → Option (List Char)
  | [], cs => some cs
  | _ :: _, [] => none
  | k :: ks, c :: cs => if isFormOf k c then afterKeyword? ks cs else none

/-- Characters of table names that need no quotes. -/
def isTableChar (c : Char) : Bool := isPlainChar c || c == '-'

/-- The name after a keyword and at least one blank. -/
def nameAfter? (cs : List Char) : Option String :=
  match cs with
  | [] => none
  | c :: _ =>
    if !Text.isBlank c then none
    else
      let rest := cs.dropWhile Text.isBlank
      let unquoted := match rest with
        | d :: ds => if d = backtick then ds else rest
        | [] => rest
      match unquoted.takeWhile isTableChar with
      | [] => none
      | name => some (String.ofList name)

/-- The main table named in a text, where `afterWord` tells whether a word character precedes. -/
def mainTableFrom (afterWord : Bool) : List Char → Option String
  | [] => none
  | c :: cs =>
    let here := if afterWord then none
      else ((afterKeyword? "from".toList (c :: cs)).bind nameAfter?).or
        ((afterKeyword? "join".toList (c :: cs)).bind nameAfter?)
    match here with
    | some name => some name
    | none => mainTableFrom (Text.isWord c) cs

def mainTable? (sql : String) : Option String := mainTableFrom false sql.toList

/-- What a statement does, by its first word in small letters. -/
def verb (sql : String) : String := Text.lower (Text.firstWord sql)

/-- Statements that are answered with a count of rows. -/
def countsRows (verb : String) : Bool :=
  verb == "insert" || verb == "update" || verb == "delete" || verb == "replace"

end RowQuery.Sql

import RowQuery.Text.Percent
import RowQuery.Yaml.DateText

/-!
The tags of YAML 1.1, and the tag that a plain text has by its look: nothing, truth values, integers
to several bases, doubles, dates, the merge key and the equals sign, and texts otherwise. Numbers
may have underscores between digits, and groups of sixty separated by colons. A line end may follow.
-/

namespace RowQuery.Yaml

inductive Tag
  | null
  | bool
  | int
  | float
  | binary
  | timestamp
  | orderedMap
  | pairs
  | set
  | text
  | sequence
  | mapping
  | merge
  /-- The key of a mapping under which its own text stands. -/
  | equals
  /-- A tag that nothing is known of. -/
  | other
  deriving DecidableEq, Repr

namespace Tag

/-- The names of the tags, which follow `tag:yaml.org,2002:`. -/
def names : List (String × Tag) :=
  [("null", .null), ("bool", .bool), ("int", .int), ("float", .float), ("binary", .binary),
    ("timestamp", .timestamp), ("omap", .orderedMap), ("pairs", .pairs), ("set", .set),
    ("str", .text), ("seq", .sequence), ("map", .mapping), ("merge", .merge), ("value", .equals)]

/-- The tag that is written out. -/
def ofUri (uri : String) : Tag :=
  ((names.find? fun p => "tag:yaml.org,2002:" ++ p.1 == uri).map (·.2)).getD .other

/-! ### Plain texts -/

def nullWords : List String := ["~", "null", "Null", "NULL"]

def truthWords : List String :=
  ["yes", "Yes", "YES", "true", "True", "TRUE", "on", "On", "ON",
    "no", "No", "NO", "false", "False", "FALSE", "off", "Off", "OFF"]

def isDigitOr_ (c : Char) : Bool := c.isDigit || c == '_'

/-- Digits with underscores, the first of them a digit. -/
def isWhole : List Char → Bool
  | [] => false
  | c :: cs => c.isDigit && cs.all isDigitOr_

/-- A group of sixty: one digit, or two of which the first is at most five. -/
def isGroup : List Char → Bool
  | [a] => a.isDigit
  | [a, b] => '0' ≤ a && a ≤ '5' && b.isDigit
  | _ => false

/-- No exponent, or one with a sign. -/
def isExponent : List Char → Bool
  | [] => true
  | e :: s :: d :: ds =>
    (e == 'e' || e == 'E') && (s == '+' || s == '-') && (d :: ds).all Char.isDigit
  | _ => false

/-- The digits of a fraction and then an exponent. -/
def isFraction (cs : List Char) : Bool := isExponent (cs.dropWhile isDigitOr_)

/-- Parts separated by colons: a number and groups of sixty. -/
def isSexagesimal (parts : List (List Char)) : Bool :=
  match parts with
  | first :: second :: rest => isWhole first && (second :: rest).all isGroup
  | _ => false

def isFloat (cs : List Char) : Bool :=
  let (whole, fraction) := Text.cutChars '.' (Text.cutSign cs).2
  match fraction with
  | none => false
  | some fraction =>
    (isWhole whole && isFraction fraction) ||
      (cs.head? == some '.' && isWhole (fraction.takeWhile isDigitOr_) && isFraction fraction) ||
      (isSexagesimal (Text.splitChars ':' whole) && fraction.all isDigitOr_) ||
      (whole.isEmpty && ["inf", "Inf", "INF"].contains (String.ofList fraction)) ||
      (cs.head? == some '.' && ["nan", "NaN", "NAN"].contains (String.ofList fraction))

def isBased (cs : List Char) (p : Char → Bool) : Bool :=
  !cs.isEmpty && cs.all fun c => p c || c == '_'

def isInt (cs : List Char) : Bool :=
  match (Text.cutSign cs).2 with
  | ['0'] => true
  | '0' :: 'b' :: ds => isBased ds fun c => c == '0' || c == '1'
  | '0' :: 'x' :: ds => isBased ds fun c => (Text.hexValue? c).isSome
  | '0' :: ds => isBased ds fun c => '0' ≤ c && c ≤ '7'
  | ds => isWhole ds || isSexagesimal (Text.splitChars ':' ds)

/-- The tag of a plain text. -/
def ofPlain (s : String) : Tag :=
  let cs := dropFinalBreak s.toList
  let word := String.ofList cs
  if s.isEmpty then .null
  else if cs.isEmpty then .text
  else if nullWords.contains word then .null
  else if truthWords.contains word then .bool
  else if isFloat cs then .float
  else if isInt cs then .int
  else if word = "<<" then .merge
  else if ((DateText.ofString? s).map DateText.isCanonical).getD false then .timestamp
  else if word = "=" then .equals
  else if ["!", "&", "*"].contains word then .other
  else .text

end Tag

end RowQuery.Yaml

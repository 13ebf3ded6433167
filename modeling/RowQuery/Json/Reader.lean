import RowQuery.Error
import RowQuery.Text.Percent
import RowQuery.Value.Equality

/-!
JSON texts as values. Numbers with a fraction or an exponent are doubles and all others integers;
`NaN` and the infinities are numbers; a repeated key keeps its first place and takes the last value.
-/

namespace RowQuery.Json

def isSpace (c : Char) : Bool := c == ' ' || c == '\t' || c == '\n' || c == '\r'

def skipSpace (cs : List Char) : List Char := cs.dropWhile isSpace

/-- The value of four hexadecimal digits. -/
def hex4? : List Char → Option (Nat × List Char)
  | a :: b :: c :: d :: cs => do
    let w ← Text.hexValue? a
    let x ← Text.hexValue? b
    let y ← Text.hexValue? c
    let z ← Text.hexValue? d
    return (((w * 16 + x) * 16 + y) * 16 + z, cs)
  | _ => none

/-- The second half of a surrogate pair whose first half was just read. -/
def lowSurrogate? : List Char → Option (Nat × List Char)
  | '\\' :: 'u' :: cs => match hex4? cs with
    | some (n, rest) => if 0xDC00 ≤ n ∧ n ≤ 0xDFFF then some (n, rest) else none
    | none => none
  | _ => none

/-- A character escape after its backslash. A text has no place for half a surrogate pair, so on its
own it reads as the replacement character: keys that differ in such halves alone become one. -/
def escape : List Char → Except Fault (Char × List Char)
  | '\x22' :: cs => .ok ('\x22', cs)
  | '\\' :: cs => .ok ('\\', cs)
  | '/' :: cs => .ok ('/', cs)
  | 'b' :: cs => .ok ('\x08', cs)
  | 'f' :: cs => .ok ('\x0c', cs)
  | 'n' :: cs => .ok ('\n', cs)
  | 'r' :: cs => .ok ('\r', cs)
  | 't' :: cs => .ok ('\t', cs)
  | 'u' :: cs => match hex4? cs with
    | none => .error .json
    | some (n, rest) =>
      if 0xD800 ≤ n ∧ n ≤ 0xDBFF then
        match lowSurrogate? rest with
        | some (m, rest) => .ok (Char.ofNat (0x10000 + (n - 0xD800) * 1024 + (m - 0xDC00)), rest)
        | none => .ok (Text.replacement, rest)
      else if 0xDC00 ≤ n ∧ n ≤ 0xDFFF then .ok (Text.replacement, rest)
      else .ok (Char.ofNat n, rest)
  | _ => .error .json

/-- The characters of a string up to its closing quote. -/
def stringBody : (fuel : Nat) → List Char → Except Fault (List Char × List Char)
  | 0, _ => .error .json
  | _ + 1, [] => .error .json
  | fuel + 1, c :: cs =>
    if c = '\x22' then .ok ([], cs)
    else if c.toNat < 32 then .error .json
    else if c = '\\' then do
      let (e, rest) ← escape cs
      let (body, rest) ← stringBody fuel rest
      return (e :: body, rest)
    else do
      let (body, rest) ← stringBody fuel cs
      return (c :: body, rest)

/-- The digits at the front of a text. -/
def digits (cs : List Char) : List Char × List Char :=
  (cs.takeWhile Char.isDigit, cs.dropWhile Char.isDigit)

def digitsValue (ds : List Char) : Nat := ds.foldl (fun n d => 10 * n + (d.toNat - 48)) 0

/-- A point and at least one digit. -/
def fraction? : List Char → Option (List Char × List Char)
  | '.' :: cs => match digits cs with
    | ([], _) => none
    | taken => some taken
  | _ => none

/-- The letter e, a sign or none, and at least one digit. -/
def exponent? : List Char → Option (Int × List Char)
  | e :: cs =>
    if e = 'e' ∨ e = 'E' then
      let (negative, cs) := match cs with
        | '-' :: cs => (true, cs)
        | '+' :: cs => (false, cs)
        | cs => (false, cs)
      match digits cs with
      | ([], _) => none
      | (ds, rest) => some (if negative then -(digitsValue ds : Int) else digitsValue ds, rest)
    else none
  | [] => none

/-- A number without its sign. -/
def number (negative : Bool) (cs : List Char) : Except Fault (Value × List Char) :=
  let (whole, rest) := match cs with
    | '0' :: rest => (['0'], rest)
    | cs => digits cs
  if whole.isEmpty then .error .json
  else
    let (part, afterPart) := (fraction? rest).getD ([], rest)
    let (power, afterPower) := (exponent? afterPart).getD (0, afterPart)
    if (fraction? rest).isNone && (exponent? afterPart).isNone then
      if Text.maxDigits < whole.length then .error .value
      else
        let n : Int := digitsValue whole
        .ok (.int (if negative then -n else n), rest)
    else
      .ok (.float (Double.ofDecimal negative (digitsValue (whole ++ part)) (power - part.length)),
        afterPower)

/-- The rest of a text after a word it starts with. -/
def word? (word : List Char) (cs : List Char) : Option (List Char) :=
  if word.isPrefixOf cs then some (cs.drop word.length) else none

/-- A word that stands for a value. -/
def named (cs : List Char) : Option (Value × List Char) :=
  let words : List (List Char × Value) :=
    [("null".toList, .null), ("true".toList, .bool true), ("false".toList, .bool false),
      ("NaN".toList, .float .nan), ("Infinity".toList, .float (.infinite false)),
      ("-Infinity".toList, .float (.infinite true))]
  words.findSome? fun w => (word? w.1 cs).map fun rest => (w.2, rest)

mutual

/-- A value at the front of a text. -/
def value : (fuel : Nat) → List Char → Except Fault (Value × List Char)
  | 0, _ => .error .json
  | _, [] => .error .json
  | fuel + 1, c :: cs =>
    if c = '\x22' then do
      let (body, rest) ← stringBody (cs.length + 1) cs
      return (.text (String.ofList body), rest)
    else if c = '[' then
      match skipSpace cs with
      | ']' :: rest => .ok (.list [], rest)
      | rest => do
        let (items, rest) ← items fuel rest
        return (.list items, rest)
    else if c = '\x7b' then
      match skipSpace cs with
      | '\x7d' :: rest => .ok (.map [], rest)
      | rest => do
        let (entries, rest) ← entries fuel rest
        return (Value.ofEntries entries, rest)
    else match named (c :: cs) with
      | some taken => .ok taken
      | none => if c = '-' then number true cs else number false (c :: cs)

/-- The items of a list up to its closing bracket. -/
def items : (fuel : Nat) → List Char → Except Fault (List Value × List Char)
  | 0, _ => .error .json
  | fuel + 1, cs => do
    let (first, rest) ← value fuel cs
    match skipSpace rest with
    | ']' :: rest => return ([first], rest)
    | ',' :: rest => do
      let (others, rest) ← items fuel (skipSpace rest)
      return (first :: others, rest)
    | _ => .error .json

/-- The entries of an object up to its closing brace. -/
def entries : (fuel : Nat) → List Char → Except Fault (List (Value × Value) × List Char)
  | 0, _ => .error .json
  | _, [] => .error .json
  | fuel + 1, c :: cs =>
    if c ≠ '\x22' then .error .json
    else do
      let (key, rest) ← stringBody (cs.length + 1) cs
      match skipSpace rest with
      | ':' :: rest => do
        let (v, rest) ← value fuel (skipSpace rest)
        let entry := (Value.text (String.ofList key), v)
        match skipSpace rest with
        | '\x7d' :: rest => return ([entry], rest)
        | ',' :: rest => do
          let (others, rest) ← entries fuel (skipSpace rest)
          return (entry :: others, rest)
        | _ => .error .json
      | _ => .error .json

end

/-- The value of a whole text. Every call of a reader takes a character, so twice the length of the
text is enough fuel. -/
def read (s : String) : Except Fault Value := do
  let cs := s.toList
  let (v, rest) ← value (2 * cs.length + 2) (skipSpace cs)
  if (skipSpace rest).isEmpty then return v else .error .json

end RowQuery.Json

import RowQuery.Text.Blank
import RowQuery.Text.Digit
import RowQuery.Text.Percent
import RowQuery.Value.Basic

/-!
Integers read from values. A text holds an optional sign and digits of any script, single
underscores between digits, blanks around; a double loses its fraction.
-/

namespace RowQuery

/-- Why a value is no integer. -/
inductive IntegerError
  /-- The text or number has no integer value. -/
  | malformed
  /-- The number is infinite. -/
  | infinite
  /-- Values of this type have no integer value. -/
  | wrongType
  deriving DecidableEq, Repr

namespace Text

/-- The most digits an integer read from a text may have. -/
def maxDigits : Nat := 4300

/-- Digits with single underscores between them, most significant first. -/
def digitRun (digit? : Char → Option Nat) : List Char → Option (List Nat)
  | [] => none
  | [c] => (digit? c).map fun d => [d]
  | c :: d :: cs =>
    match digit? c with
    | none => none
    | some n =>
      if d = '_' then (digitRun digit? cs).map (n :: ·)
      else (digitRun digit? (d :: cs)).map (n :: ·)

/-- A sign and digits. -/
def signedInt? (digit? : Char → Option Nat) (cs : List Char) : Option Int :=
  let (negative, rest) := cutSign cs
  match digitRun digit? rest with
  | some digits =>
    if maxDigits < digits.length then none
    else some (if negative then -(ofDigits digits : Int) else ofDigits digits)
  | none => none

/-- The integer a text stands for. -/
def toInt? (s : String) : Option Int := signedInt? digitValue? (trimNumber s.toList)

/-- The letter that follows a zero to name a base. -/
def baseLetter? : Nat → Option Char
  | 2 => some 'b'
  | 8 => some 'o'
  | 16 => some 'x'
  | _ => none

/-- The digits after the name of their base, which may be left out. -/
def dropBaseName (base : Nat) : List Char → List Char
  | '0' :: c :: cs =>
    if baseLetter? base = some c.toLower then (if cs.head? = some '_' then cs.tail else cs)
    else '0' :: c :: cs
  | cs => cs

/-- The digits of other scripts as those of ASCII. -/
def toAsciiDigits (cs : List Char) : List Char :=
  cs.map fun c => match digitValue? c with
    | some d => Char.ofNat (48 + d)
    | none => c

/-- The integer a text stands for in the base two, eight or sixteen. -/
def toIntOfBase? (base : Nat) (s : String) : Option Int :=
  let (negative, rest) := cutSign (toAsciiDigits (trimNumber s.toList))
  let digit? := fun c => (hexValue? c).filter (· < base)
  (digitRun digit? (dropBaseName base rest)).map fun digits =>
    let n : Nat := digits.foldl (fun n d => base * n + d) 0
    if negative then -(n : Int) else n

end Text

/-- The integer a value stands for. -/
def Value.toInteger : Value → Except IntegerError Int
  | .bool b => .ok (if b then 1 else 0)
  | .int n => .ok n
  | .float (.infinite _) => .error .infinite
  | .float x => match x.truncate? with
    | some n => .ok n
    | none => .error .malformed
  | .text s => match Text.toInt? s with
    | some n => .ok n
    | none => .error .malformed
  | .bytes bs =>
    let isSpace := fun (c : Char) => c.isWhitespace || c == '\x0b' || c == '\x0c'
    let cs := Text.stripChars isSpace (bs.map fun b => Char.ofNat b.toNat)
    match Text.signedInt? Text.asciiDigit? cs with
    | some n => .ok n
    | none => .error .malformed
  | _ => .error .wrongType

end RowQuery

import RowQuery.Number.Decimal
import RowQuery.Text.Case
import RowQuery.Yaml.Tag

/-!
The values of tagged texts. A number may be grouped with underscores, and groups of sixty are
separated by colons; a text that its tag does not allow is refused for the part that is missing.
-/

namespace RowQuery.Yaml

/-! ### Bytes -/

/-- The value of a digit to the base 64. -/
def digit64? (c : Char) : Option Nat :=
  if c.isUpper then some (c.toNat - 65)
  else if c.isLower then some (c.toNat - 71)
  else if c.isDigit then some (c.toNat + 4)
  else if c = '+' then some 62
  else if c = '/' then some 63
  else none

/-- The digits to the base 64 up to the signs that fill the last group of four; other characters
are left aside. Fills stand for nothing before the third place of a group. -/
def digits64? : (place fills : Nat) → List Char → Option (List Nat)
  | place, _, [] => if place = 0 then some [] else none
  | place, fills, c :: cs =>
    if c = '=' then
      if place < 2 then digits64? place fills cs
      else if 4 ≤ place + fills + 1 then some []
      else digits64? place (fills + 1) cs
    else match digit64? c with
      | some d => (digits64? ((place + 1) % 4) 0 cs).map (d :: ·)
      | none => digits64? place fills cs

/-- The bytes of a text to the base 64; digits that fill no byte are left aside. -/
def base64? (s : String) : Option (List UInt8) :=
  if s.toList.any fun c => 128 ≤ c.toNat then none
  else (digits64? 0 0 s.toList).map fun ds =>
    let count := ds.length * 6 / 8
    let n := ds.foldl (fun n d => 64 * n + d) 0 / Nat.pow 2 (ds.length * 6 % 8)
    (List.range count).map fun i => UInt8.ofNat (n / Nat.pow 256 (count - 1 - i))

/-! ### Numbers -/

/-- A number that was read, or the failure of a text without one. -/
def orMalformed {α : Type} (value : Option α) : Except Fault α :=
  match value with
  | some v => .ok v
  | none => .error .value

/-- The integer that a text without sign stands for; a leading zero or a letter after it names the
base. -/
def magnitude : List Char → Except Fault Int
  | [] => .error .index
  | ['0'] => .ok 0
  | '0' :: 'b' :: ds => orMalformed (Text.toIntOfBase? 2 (String.ofList ds))
  | '0' :: 'x' :: ds => orMalformed (Text.toIntOfBase? 16 (String.ofList ds))
  | '0' :: ds => orMalformed (Text.toIntOfBase? 8 (String.ofList ('0' :: ds)))
  | ds => do
    let groups := (Text.splitChars ':' ds).map String.ofList
    let numbers ← orMalformed (groups.mapM Text.toInt?)
    return numbers.foldl (fun n d => 60 * n + d) 0

/-- The integer a text stands for. -/
def readInt (s : String) : Except Fault Int := do
  let (negative, cs) := Text.cutSign (s.toList.filter (· != '_'))
  let n ← magnitude cs
  return if negative then -n else n

/-- The weight of the `k`-th group of sixty from the end. -/
def groupWeight (k : Nat) : Except Fault Double :=
  let weight := Double.ofInt (Nat.pow 60 k : Nat)
  if weight.isInfinite then .error .overflow else .ok weight

/-- The sum of groups of sixty from the last one on, rounded at each step. -/
def sumGroups (groups : List Double) : Except Fault Double :=
  (groups.reverse.zipIdx).foldlM (fun sum g => do
    return sum.add (g.1.mul (← groupWeight g.2))) (Double.zero false)

/-- The double that a text without sign stands for. -/
def doubleMagnitude (cs : List Char) : Except Fault Double :=
  if cs = ".inf".toList then .ok (.infinite false)
  else if cs = ".nan".toList then .ok .nan
  else match Text.splitChars ':' cs with
    | [_] => orMalformed (Text.toDouble? (String.ofList cs))
    | groups => do sumGroups (← orMalformed (groups.mapM fun g => Text.toDouble? (String.ofList g)))

/-- The double a text stands for. -/
def readDouble (s : String) : Except Fault Double :=
  match (Text.lower s).toList.filter (· != '_') with
  | [] => .error .index
  | c :: cs => do
    let x ← doubleMagnitude (Text.cutSign (c :: cs)).2
    return if c = '-' then x.neg else x

/-! ### All tags -/

/-- The words for truth values, in small letters. -/
def truthOf? (word : String) : Option Bool :=
  if ["yes", "true", "on"].contains word then some true
  else if ["no", "false", "off"].contains word then some false
  else none

def readTruth (s : String) : Except Error Bool :=
  let word := Text.lower s
  match truthOf? word with
  | some b => .ok b
  | none => .error (.unknownWord word)

def readDate (s : String) : Except Fault Date :=
  match DateText.ofString? s with
  | none => .error .attribute
  | some t => orMalformed t.toDate?

namespace Tag

/-- Tags of texts, as opposed to those of collections and of nothing known. -/
def isScalar : Tag → Bool
  | .null | .bool | .int | .float | .binary | .timestamp | .text => true
  | _ => false

/-- Tags of collections. -/
def isCollection : Tag → Bool
  | .sequence | .mapping | .set | .orderedMap | .pairs => true
  | _ => false

/-- The value of a text under a tag. -/
def read (tag : Tag) (s : String) : Except Error Value :=
  match tag with
  | .null => .ok .null
  | .bool => (readTruth s).map .bool
  | .int => ((readInt s).mapError .fault).map .int
  | .float => ((readDouble s).mapError .fault).map .float
  | .binary => match base64? s with
    | some bs => .ok (.bytes bs)
    | none => failWith .yaml
  | .timestamp => ((readDate s).mapError .fault).map .date
  | .text => .ok (.text s)
  | _ => failWith .yaml

end Tag

end RowQuery.Yaml

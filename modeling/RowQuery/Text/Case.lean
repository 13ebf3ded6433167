import RowQuery.Text.CaseTable

/-!
Full case mappings. A capital or small letter may be several characters, and a capital sigma that
ends a word has a small form of its own.
-/

namespace RowQuery.Text

def upperChar (c : Char) : List Char :=
  if c.toNat < 128 then [c.toUpper]
  else match upperSequences.find? fun r => r.1 == c.toNat with
    | some r => r.2.map Char.ofNat
    | none => [Char.ofNat ((runLookup upperRuns c.toNat).getD c.toNat)]

def upper (s : String) : String := String.ofList (s.toList.flatMap upperChar)

/-- The first character that is not skipped has a case. -/
def meetsCased (cs : List Char) : Bool :=
  match cs.dropWhile fun c => inIntervals skippedIntervals c.toNat with
  | [] => false
  | c :: _ => inIntervals casedIntervals c.toNat

/-- The small form of one character between its neighbours, the ones before it nearest first. -/
def lowerChar (before : List Char) (c : Char) (after : List Char) : List Char :=
  if c.toNat < 128 then [c.toLower]
  else if c.toNat = 0x130 then ['i', '\u0307']
  else if c.toNat = 0x3A3 then
    [if meetsCased before && !meetsCased after then '\u03c2' else '\u03c3']
  else [Char.ofNat ((runLookup lowerRuns c.toNat).getD c.toNat)]

def lowerChars (before : List Char) : List Char → List Char
  | [] => []
  | c :: cs => lowerChar before c cs ++ lowerChars (c :: before) cs

def lower (s : String) : String := String.ofList (lowerChars [] s.toList)

end RowQuery.Text

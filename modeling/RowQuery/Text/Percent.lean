import RowQuery.Text.Utf8

/-!
Percent encoding of texts. Letters, digits and `_.-~` stand for themselves; every other character
is written as its UTF-8 bytes, each a percent sign and two capital hexadecimal digits. Decoding
keeps a percent sign that two hexadecimal digits do not follow.
-/

namespace RowQuery.Text

/-- Characters that stand for themselves in an encoded text. -/
def isUnreserved (c : Char) : Bool :=
  c.isAlphanum || c == '_' || c == '.' || c == '-' || c == '~'

def hexDigit (n : Nat) : Char := Char.ofNat (if n < 10 then 48 + n else 55 + n)

def hexValue? (c : Char) : Option Nat :=
  if c.isDigit then some (c.toNat - 48)
  else if 'a' ≤ c ∧ c ≤ 'f' then some (c.toNat - 87)
  else if 'A' ≤ c ∧ c ≤ 'F' then some (c.toNat - 55)
  else none

def percentByte (b : UInt8) : List Char :=
  ['%', hexDigit (b.toNat / 16), hexDigit (b.toNat % 16)]

def percentChar (c : Char) : List Char :=
  if isUnreserved c then [c] else (encodeChar c).flatMap percentByte

def percentEncode (s : String) : String := String.ofList (s.toList.flatMap percentChar)

/-- The bytes a text stands for; characters above U+007F count as their UTF-8 bytes. -/
def percentBytes : List Char → List UInt8
  | [] => []
  | '%' :: a :: b :: cs =>
    match hexValue? a, hexValue? b with
    | some x, some y => UInt8.ofNat (16 * x + y) :: percentBytes cs
    | _, _ => UInt8.ofNat 37 :: percentBytes (a :: b :: cs)
  | c :: cs => encodeChar c ++ percentBytes cs

/-- Splits a text into maximal runs of characters below U+0080 and of the others. -/
def asciiRuns : List Char → List (List Char)
  | [] => []
  | c :: cs =>
    match asciiRuns cs with
    | (d :: run) :: runs =>
      if (c.toNat < 128) = (d.toNat < 128) then (c :: d :: run) :: runs
      else [c] :: (d :: run) :: runs
    | runs => [c] :: runs

/-- Each run of characters below U+0080 is decoded on its own, so a character written in clear
text never completes an encoded one. -/
def percentDecode (s : String) : String :=
  String.ofList ((asciiRuns s.toList).flatMap fun run => decodeUtf8 (percentBytes run))

end RowQuery.Text

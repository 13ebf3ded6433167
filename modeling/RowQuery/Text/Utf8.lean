/-!
UTF-8. Encoding is a map from characters to bytes; decoding replaces each longest start of a
character that cannot be completed by one replacement character, and never fails.
-/

namespace RowQuery.Text

def encodeChar (c : Char) : List UInt8 :=
  let n := c.toNat
  if n < 0x80 then [UInt8.ofNat n]
  else if n < 0x800 then [UInt8.ofNat (0xC0 + n / 64), UInt8.ofNat (0x80 + n % 64)]
  else if n < 0x10000 then
    [UInt8.ofNat (0xE0 + n / 4096), UInt8.ofNat (0x80 + n / 64 % 64), UInt8.ofNat (0x80 + n % 64)]
  else
    [UInt8.ofNat (0xF0 + n / 262144), UInt8.ofNat (0x80 + n / 4096 % 64),
      UInt8.ofNat (0x80 + n / 64 % 64), UInt8.ofNat (0x80 + n % 64)]

def encodeUtf8 (cs : List Char) : List UInt8 := cs.flatMap encodeChar

/-- What a character owes after some of its bytes: the number of bytes still to come, the interval
the next one lies in, and the number read so far. -/
structure Pending where
  owed : Nat
  low : Nat
  high : Nat
  value : Nat

/-- The state after a byte that starts a character of several bytes. -/
def Pending.start? (n : Nat) : Option Pending :=
  if 0xC2 ≤ n ∧ n ≤ 0xDF then some ⟨1, 0x80, 0xBF, n - 0xC0⟩
  else if n = 0xE0 then some ⟨2, 0xA0, 0xBF, 0⟩
  else if n = 0xED then some ⟨2, 0x80, 0x9F, 0xD⟩
  else if 0xE1 ≤ n ∧ n ≤ 0xEF then some ⟨2, 0x80, 0xBF, n - 0xE0⟩
  else if n = 0xF0 then some ⟨3, 0x90, 0xBF, 0⟩
  else if 0xF1 ≤ n ∧ n ≤ 0xF3 then some ⟨3, 0x80, 0xBF, n - 0xF0⟩
  else if n = 0xF4 then some ⟨3, 0x80, 0x8F, 4⟩
  else none

def replacement : Char := '\ufffd'

/-- Reads a byte between characters: what it yields at once, and what it leaves pending. -/
def decodeStart (n : Nat) : List Char × Option Pending :=
  if n < 0x80 then ([Char.ofNat n], none)
  else match Pending.start? n with
    | some p => ([], some p)
    | none => ([replacement], none)

def decodeFrom : Option Pending → List UInt8 → List Char
  | none, [] => []
  | some _, [] => [replacement]
  | none, b :: bs => (decodeStart b.toNat).1 ++ decodeFrom (decodeStart b.toNat).2 bs
  | some p, b :: bs =>
    let n := b.toNat
    if p.low ≤ n ∧ n ≤ p.high then
      let value := p.value * 64 + (n - 0x80)
      if p.owed ≤ 1 then Char.ofNat value :: decodeFrom none bs
      else decodeFrom (some ⟨p.owed - 1, 0x80, 0xBF, value⟩) bs
    else replacement :: ((decodeStart n).1 ++ decodeFrom (decodeStart n).2 bs)

def decodeUtf8 (bs : List UInt8) : List Char := decodeFrom none bs

/-- Decodes bytes that are valid throughout; a replacement character in the text itself is three
bytes and survives re-encoding, so comparing the bytes finds every invalid one. -/
def decodeUtf8? (bs : List UInt8) : Option (List Char) :=
  if encodeUtf8 (decodeUtf8 bs) = bs then some (decodeUtf8 bs) else none

end RowQuery.Text

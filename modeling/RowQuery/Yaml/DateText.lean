import RowQuery.Error

/-!
Dates as they are written in YAML 1.1: a day alone, or a day and a time of day after a letter T or
blanks, with a fraction of the second and a distance from universal time. A line end may follow.
-/

namespace RowQuery.Yaml

/-- A text without the line feed it ends with. -/
def dropFinalBreak (cs : List Char) : List Char :=
  if cs.getLast? = some '\n' then cs.dropLast else cs

/-- The digits of a day, and of a time when there is one, the fraction of the second and the
distance from universal time. -/
structure DateText where
  parts : List (List Char)
  fraction : List Char
  zone : List Char

namespace DateText

def isBlank (c : Char) : Bool := c == ' ' || c == '\t'

/-- One or two digits. -/
def isShort (cs : List Char) : Bool := (cs.length == 1 || cs.length == 2) && cs.all Char.isDigit

def isFixed (n : Nat) (cs : List Char) : Bool := cs.length == n && cs.all Char.isDigit

/-- Universal time, or a signed number of hours and maybe minutes. -/
def isZone : List Char → Bool
  | [] => false
  | s :: rest =>
    (s == 'Z' && rest.isEmpty) ||
      ((s == '+' || s == '-') && match Text.splitChars ':' rest with
        | [h] => isShort h
        | [h, m] => isShort h && isFixed 2 m
        | _ => false)

/-- Nothing after the second, or blanks and a zone. -/
def zoneOf? (cs : List Char) : Option (List Char) :=
  if cs.isEmpty then some []
  else if isZone (cs.dropWhile isBlank) then some (cs.dropWhile isBlank) else none

/-- The fraction after a point, and what follows it. -/
def cutFraction : List Char → List Char × List Char
  | '.' :: cs => (cs.takeWhile Char.isDigit, cs.dropWhile Char.isDigit)
  | cs => ([], cs)

/-- What separates a time from its day is dropped, none when nothing does. -/
def dropSeparator? : List Char → Option (List Char)
  | [] => none
  | c :: cs =>
    if c = 'T' ∨ c = 't' then some cs
    else if isBlank c then some (cs.dropWhile isBlank) else none

/-- The parts of a date in a text. Months and days may have one digit. -/
def ofString? (s : String) : Option DateText :=
  let cs := dropFinalBreak s.toList
  let day := cs.takeWhile fun c => c.isDigit || c == '-'
  match Text.splitChars '-' day with
  | [y, m, d] =>
    if !(isFixed 4 y && isShort m && isShort d) then none
    else if cs.length = day.length then some ⟨[y, m, d], [], []⟩
    else do
      let clock ← dropSeparator? (cs.drop day.length)
      let time := clock.takeWhile fun c => c.isDigit || c == ':'
      let (fraction, after) := cutFraction (clock.drop time.length)
      let zone ← zoneOf? after
      match Text.splitChars ':' time with
      | [h, mi, sec] =>
        if isShort h && isFixed 2 mi && isFixed 2 sec then
          some ⟨[y, m, d, h, mi, sec], fraction, zone⟩
        else none
      | _ => none
  | _ => none

/-- A day without a time is written with two digits for the month and the day. -/
def isCanonical (t : DateText) : Bool :=
  match t.parts with
  | [_, m, d] => isFixed 2 m && isFixed 2 d
  | _ => true

def number (cs : List Char) : Nat := cs.foldl (fun n d => 10 * n + (d.toNat - 48)) 0

/-- Minutes ahead of universal time. -/
def offset : List Char → Option Int
  | [] => none
  | 'Z' :: _ => some 0
  | s :: rest =>
    let minutes : Int := match Text.splitChars ':' rest with
      | [h, m] => 60 * number h + number m
      | _ => 60 * number rest
    some (if s = '-' then -minutes else minutes)

/-- The date a text stands for, unless there is no such day or time. -/
def toDate? (t : DateText) : Option Date :=
  let date? : Option Date := match t.parts.map number with
    | [year, month, day] => some { year, month, day }
    | [year, month, day, hour, minute, second] =>
      let digits := t.fraction.take 6
      let micro := number (digits ++ List.replicate (6 - digits.length) '0')
      some { year, month, day
             clock := some { hour, minute, second, micro, offset := offset t.zone } }
    | _ => none
  date?.filter Date.isValid

end DateText

end RowQuery.Yaml

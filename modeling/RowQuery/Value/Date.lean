import RowQuery.Text.Split

/-!
Dates, with the time of day and the distance from universal time when these are known, and the two
texts of a date: the one for a reader, and its literal.
-/

namespace RowQuery

structure Clock where
  hour : Nat
  minute : Nat
  second : Nat
  micro : Nat := 0
  /-- Minutes ahead of universal time. -/
  offset : Option Int := none
  deriving DecidableEq, Repr

structure Date where
  year : Nat
  month : Nat
  day : Nat
  clock : Option Clock := none
  deriving DecidableEq, Repr

namespace Date

def isLeap (year : Nat) : Bool := year % 4 == 0 && (year % 100 != 0 || year % 400 == 0)

def daysIn (year month : Nat) : Nat :=
  if month = 2 then (if isLeap year then 29 else 28)
  else if month = 4 ∨ month = 6 ∨ month = 9 ∨ month = 11 then 30
  else 31

def Clock.isValid (c : Clock) : Bool :=
  c.hour < 24 && c.minute < 60 && c.second < 60 &&
    match c.offset with
    | some m => m.natAbs < 1440
    | none => true

def isValid (d : Date) : Bool :=
  1 ≤ d.year && 1 ≤ d.month && d.month ≤ 12 && 1 ≤ d.day && d.day ≤ daysIn d.year d.month &&
    match d.clock with
    | some c => Clock.isValid c
    | none => true

/-- The days before a date, counted from the first day of the year one. -/
def daysBefore (d : Date) : Nat :=
  let years := d.year - 1
  365 * years + years / 4 - years / 100 + years / 400 +
    (List.range (d.month - 1)).foldl (fun days m => days + daysIn d.year (m + 1)) 0 + (d.day - 1)

/-- The microseconds of universal time before a date whose distance from it is known. -/
def instant? (d : Date) : Option Int :=
  match d.clock with
  | some c => c.offset.map fun ahead =>
    let minutes : Int := ((d.daysBefore * 24 + c.hour) * 60 + c.minute : Nat) - ahead
    (minutes * 60 + c.second) * 1000000 + c.micro
  | none => none

/-- The same day, or the same time. Dates whose distance from universal time is known are compared
there, and differ from all others. -/
def same (a b : Date) : Bool :=
  match a.instant?, b.instant? with
  | some s, some t => s == t
  | none, none => a == b
  | _, _ => false

/-- A number with leading zeros. -/
def padded (width n : Nat) : String :=
  let digits := Nat.toDigits 10 n
  String.ofList (List.replicate (width - digits.length) '0' ++ digits)

def offsetDisplay (m : Int) : String :=
  (if m < 0 then "-" else "+") ++ padded 2 (m.natAbs / 60) ++ ":" ++ padded 2 (m.natAbs % 60)

def clockDisplay (c : Clock) : String :=
  Text.join ":" [padded 2 c.hour, padded 2 c.minute, padded 2 c.second] ++
    (if c.micro = 0 then "" else "." ++ padded 6 c.micro) ++
    (match c.offset with | some m => offsetDisplay m | none => "")

def display (d : Date) : String :=
  Text.join "-" [padded 4 d.year, padded 2 d.month, padded 2 d.day] ++
    (match d.clock with | some c => " " ++ clockDisplay c | none => "")

def offsetLiteral (m : Int) : String :=
  if m = 0 then "datetime.timezone.utc"
  else "datetime.timezone(datetime.timedelta(" ++
    (if m < 0 then "days=-1, seconds=" ++ toString (86400 + 60 * m)
      else "seconds=" ++ toString (60 * m)) ++ "))"

def literal (d : Date) : String :=
  let day := [toString d.year, toString d.month, toString d.day]
  match d.clock with
  | none => "datetime.date(" ++ Text.join ", " day ++ ")"
  | some c =>
    let seconds := if c.micro ≠ 0 then [toString c.second, toString c.micro]
      else if c.second ≠ 0 then [toString c.second] else []
    let zone := match c.offset with | some m => ["tzinfo=" ++ offsetLiteral m] | none => []
    "datetime.datetime(" ++
      Text.join ", " (day ++ [toString c.hour, toString c.minute] ++ seconds ++ zone) ++ ")"

end Date

end RowQuery

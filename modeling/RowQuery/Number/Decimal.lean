import RowQuery.Number.Double
import RowQuery.Text.Blank
import RowQuery.Text.Case
import RowQuery.Text.Digit

/-!
Doubles read from texts: an optional sign and a decimal fraction with digits of any script, or the
name of an infinity or of nan, with blanks around.
-/

namespace RowQuery.Text

/-- The power of ten of an exponent: nothing, or the letter e and digits with an optional sign. -/
def exponentPower? : List Char → Option Int
  | [] => some 0
  | e :: cs =>
    if e = 'e' ∨ e = 'E' then
      match leadingDigits (cutSign cs).2 with
      | (d :: ds, []) =>
        let n : Int := ofDigits (d :: ds)
        some (if (cutSign cs).1 then -n else n)
      | _ => none
    else none

/-- The double of a text without sign: digits around a point, and an exponent. -/
def decimal? (negative : Bool) (cs : List Char) : Option Double :=
  let (whole, rest) := leadingDigits cs
  let (part, rest) := match rest with
    | '.' :: rest => leadingDigits rest
    | rest => ([], rest)
  if (whole ++ part).isEmpty then none
  else (exponentPower? rest).map fun power =>
    Double.ofDecimal negative (ofDigits (whole ++ part)) (power - part.length)

/-- The double a text stands for. -/
def toDouble? (s : String) : Option Double :=
  let (negative, cs) := cutSign (trimNumber s.toList)
  let word := String.ofList (cs.map Char.toLower)
  if word = "inf" ∨ word = "infinity" then some (.infinite negative)
  else if word = "nan" then some .nan
  else decimal? negative cs

end RowQuery.Text
